import EnvSeed.Proofs.Dotenv.Reading
import EnvSeed.Proofs.Text.Bytes

/-!
# Assignments of bare values

A key, an equals sign and a value of characters that mean nothing to a dotenv reader make a line with
one entry, whose value is the text itself. The line may end in a line feed, with or without a carriage
return, or with the file.
-/

namespace EnvSeed.Dotenv

/-- A character that stands for itself wherever a value is not quoted. -/
def isBare (c : Char) : Bool :=
  c.isAlphanum || ['+', '/', '=', '-', '_', '.'].contains c

/-- A bare character is one of ASCII. -/
theorem toNat_lt_of_isBare {c : Char} (h : isBare c = true) : c.toNat < 128 := by
  have hranges : (((decide (c.val ≥ 'A'.val ∧ c.val ≤ 'Z'.val) ||
      (decide (c.val ≥ 'a'.val) && decide (c.val ≤ 'z'.val))) ||
      (decide (c.val ≥ '0'.val) && decide (c.val ≤ '9'.val))) ||
      ['+', '/', '=', '-', '_', '.'].contains c) = true := h
  simp only [Bool.or_eq_true, Bool.and_eq_true, decide_eq_true_eq, List.contains_eq_mem, List.mem_cons,
    List.not_mem_nil, or_false, UInt32.le_iff_toNat_le, ge_iff_le] at hranges
  have htoNat : c.toNat = c.val.toNat := rfl
  have hupper : 'Z'.val.toNat = 90 := rfl
  have hlower : 'z'.val.toNat = 122 := rfl
  have hdigit : '9'.val.toNat = 57 := rfl
  rcases hranges with ((⟨-, h⟩ | ⟨-, h⟩) | ⟨-, h⟩) | h
  · omega
  · omega
  · omega
  · rcases h with rfl | rfl | rfl | rfl | rfl | rfl <;> decide

/-- What can be checked of each ASCII character that is bare holds of every bare character. -/
theorem forall_isBare {p : Char → Bool}
    (hp : ∀ n < 128, isBare (Char.ofNat n) = true → p (Char.ofNat n) = true) {c : Char}
    (h : isBare c = true) : p c = true := by
  have hc : Char.ofNat c.toNat = c := Char.ofNat_toNat c
  have hcode := hp c.toNat (toNat_lt_of_isBare h)
  rw [hc] at hcode
  exact hcode h

/-- A bare character is not blank. -/
theorem not_isBlank_of_isBare {c : Char} (h : isBare c = true) : Text.isBlank c = false := by
  have hc := forall_isBare (p := fun c => !Text.isBlank c) (by decide) h
  simpa using hc

/-- A bare character begins no comment. -/
theorem ne_hash_of_isBare {c : Char} (h : isBare c = true) : c ≠ '#' := by
  have hc := forall_isBare (p := fun c => c != '#') (by decide) h
  simpa using hc

/-- A bare character after ordinary ones leaves nothing open. -/
theorem next_complete_of_isBare {c : Char} (h : isBare c = true) : Mode.next .complete c = .complete := by
  have hc := forall_isBare (p := fun c => Mode.next .complete c = .complete) (by decide) h
  simpa using hc

/-- A bare character of an unquoted value is a part of it. -/
theorem readPlain_of_isBare {c : Char} (h : isBare c = true) (parts : List Part) :
    readPlain false parts c = ⟨.plain false, .literal c :: parts⟩ := by
  have hc := forall_isBare (p := fun c => !(['$', '\x5c', '\x22', '\x27', ' ', '\t'].contains c)) (by decide) h
  simp only [List.contains_eq_mem, List.mem_cons, List.not_mem_nil, or_false, Bool.not_eq_true',
    decide_eq_false_iff_not, not_or] at hc
  simp [readPlain, hc]

/-- A letter, digit, underscore or dot of a key is bare. -/
theorem isBare_of_isKeyRest {c : Char} (h : isKeyRest c = true) : isBare c = true := by
  simp only [isKeyRest, Bool.or_eq_true, decide_eq_true_eq] at h
  rcases h with (h | rfl) | rfl
  · simp [isBare, h]
  · decide
  · decide

/-- Every character of a key is bare. -/
theorem isBare_of_isKey {key : List Char} (h : isKey key = true) : ∀ c ∈ key, isBare c = true := by
  intro c hc
  simp only [isKey, Bool.and_eq_true, List.all_eq_true] at h
  exact isBare_of_isKeyRest (h.2 c hc)

/-- Trimming the start takes nothing from bare characters. -/
theorem dropWhile_isBlank_of_bare {text : List Char} (h : ∀ c ∈ text, isBare c = true) :
    text.dropWhile Text.isBlank = text := by
  cases text with
  | nil => rfl
  | cons c rest => simp [not_isBlank_of_isBare (h c List.mem_cons_self)]

/-- Trimming the end takes nothing from bare characters. -/
theorem trimEnd_of_bare {text : List Char} (h : ∀ c ∈ text, isBare c = true) : Text.trimEnd text = text := by
  have hreverse : ∀ c ∈ text.reverse, isBare c = true := fun c hc => h c (List.mem_reverse.mp hc)
  rw [Text.trimEnd, dropWhile_isBlank_of_bare hreverse, List.reverse_reverse]

/-- There are no blanks to pass over before bare characters. -/
theorem skipBlanks_of_bare {text : List Char} (h : ∀ c ∈ text, isBare c = true) (index : Nat) :
    Cursor.skipBlanks ⟨text, index⟩ = ⟨text, index⟩ := by
  have htake : text.takeWhile Text.isBlank = [] := by
    cases text with
    | nil => rfl
    | cons c rest => simp [not_isBlank_of_isBare (h c List.mem_cons_self)]
  simp [Cursor.skipBlanks, dropWhile_isBlank_of_bare h, htake]

/-- Bare characters are neither nothing nor a comment. -/
theorem not_atEnd_of_bare {text : List Char} (h : ∀ c ∈ text, isBare c = true) (hne : text ≠ []) (index : Nat) :
    Cursor.atEnd ⟨text, index⟩ = false := by
  obtain ⟨c, rest, rfl⟩ := List.exists_cons_of_ne_nil hne
  simp [Cursor.atEnd, ne_hash_of_isBare (h c List.mem_cons_self)]

/-- An unquoted value of bare characters is read as they are. -/
theorem readFrom_of_bare {text : List Char} (h : ∀ c ∈ text, isBare c = true) (index : Nat) (parts : List Part) :
    readFrom index ⟨.plain false, parts⟩ text =
      .ok ⟨.plain false, (text.map Part.literal).reverse ++ parts⟩ := by
  induction text generalizing index parts with
  | nil => rfl
  | cons c rest ih =>
    have hread : Progress.read ⟨.plain false, parts⟩ c = some ⟨.plain false, .literal c :: parts⟩ :=
      congrArg some (readPlain_of_isBare (h c List.mem_cons_self) parts)
    have hplace : ¬(decide (Place.plain false = .ended) && decide (c = '#')) = true := by simp
    rw [readFrom, if_neg hplace, hread]
    simp only
    rw [ih (fun c hc => h c (List.mem_cons_of_mem _ hc))]
    simp

/-- A value of bare characters has each of them as a part. -/
theorem readValue_of_bare {text : List Char} (h : ∀ c ∈ text, isBare c = true) :
    readValue text = .ok (text.map Part.literal) := by
  have hread := readFrom_of_bare h 0 []
  rw [List.append_nil] at hread
  simp [readValue, hread, Progress.finish?]

/-- Characters that leave nothing open are all kept. -/
theorem scan_of_complete {text : List Char} (h : ∀ c ∈ text, Mode.next .complete c = .complete) (kept : List Char) :
    scan .complete kept text = (text.reverse ++ kept, some .complete) := by
  induction text generalizing kept with
  | nil => rfl
  | cons c rest ih =>
    have hmode : ¬(decide (Mode.complete = .blank) && decide (c = '#')) = true := by simp
    rw [scan, if_neg hmode, h c List.mem_cons_self, ih fun c hc => h c (List.mem_cons_of_mem _ hc)]
    simp

/-- What a physical line can end with. -/
def lineEndings : List (List Char) := [[], ['\n'], ['\r', '\n']]

/-- An ending leaves nothing open. -/
theorem next_complete_of_mem_ending {ending : List Char} (h : ending ∈ lineEndings) :
    ∀ c ∈ ending, Mode.next .complete c = .complete := by
  have hall : (lineEndings.all fun ending => ending.all fun c => Mode.next .complete c = .complete) = true := by
    decide
  intro c hc
  simpa using List.all_eq_true.mp (List.all_eq_true.mp hall ending h) c hc

/-- An ending is dropped from a line of bare characters, and nothing else is. -/
theorem dropEnd_of_bare {text ending : List Char} (h : ∀ c ∈ text, isBare c = true) (hne : text ≠ [])
    (hending : ending ∈ lineEndings) : dropEnd ((text ++ ending).reverse) = text.reverse := by
  have hreverse : text.reverse ≠ [] := by simpa using hne
  obtain ⟨last, rest, hlast⟩ := List.exists_cons_of_ne_nil hreverse
  have hbare : isBare last = true := h last (List.mem_reverse.mp (hlast ▸ List.mem_cons_self))
  have hfeed : last ≠ '\n' := by
    intro heq
    rw [heq] at hbare
    exact absurd hbare (by decide)
  have hreturn : last ≠ '\r' := by
    intro heq
    rw [heq] at hbare
    exact absurd hbare (by decide)
  simp only [lineEndings, List.mem_cons, List.not_mem_nil, or_false] at hending
  rw [List.reverse_append, hlast]
  rcases hending with rfl | rfl | rfl
  · simp [dropEnd, hfeed]
  · simp [dropEnd, hreturn]
  · simp [dropEnd]

section Line

variable {key value : List Char} (hkey : isKey key = true) (hvalue : ∀ c ∈ value, isBare c = true)

include hkey hvalue

/-- A key, an equals sign and a bare value are bare throughout. -/
theorem isBare_of_mem_line : ∀ c ∈ key ++ '=' :: value, isBare c = true := by
  intro c hc
  rcases List.mem_append.mp hc with hc | hc
  · exact isBare_of_isKey hkey c hc
  · rcases List.mem_cons.mp hc with rfl | hc
    · decide
    · exact hvalue c hc

omit hvalue in
/-- A key is read up to the equals sign after it. -/
theorem key?_of_line (index : Nat) :
    Cursor.key? ⟨key ++ '=' :: value, index⟩ = some (String.ofList key, ⟨'=' :: value, index + key.length⟩) := by
  simp only [isKey, Bool.and_eq_true, List.all_eq_true] at hkey
  obtain ⟨hstart, hrest⟩ := hkey
  have hhead : (key ++ '=' :: value).head?.any isKeyStart = true := by
    cases key with
    | nil => cases hstart
    | cons c rest => exact hstart
  have hequals : isKeyRest '=' = false := by decide
  have htake : (key ++ '=' :: value).takeWhile isKeyRest = key := by
    rw [List.takeWhile_append_of_pos hrest, List.takeWhile_cons_of_neg (by simp [hequals]), List.append_nil]
  have hdrop : (key ++ '=' :: value).dropWhile isKeyRest = '=' :: value := by
    rw [List.dropWhile_append_of_pos hrest, List.dropWhile_cons_of_neg (by simp [hequals])]
  simp only [Cursor.key?, hhead, htake, hdrop, if_true]

/-- The cursor comes to the value of a line after its key, whatever the key is. -/
theorem assignment_of_line :
    ∃ index, Cursor.assignment ⟨key ++ '=' :: value, 0⟩ = .ok (String.ofList key, ⟨value, index⟩) := by
  have hread : Cursor.key? ⟨key ++ '=' :: value, 0⟩ =
      some (String.ofList key, ⟨'=' :: value, 0 + key.length⟩) := key?_of_line hkey 0
  have hequals : (Cursor.skipBlanks ⟨'=' :: value, 0 + key.length⟩).equals? =
      some ⟨value, 0 + key.length + 1⟩ := by
    have hbare : ∀ c ∈ '=' :: value, isBare c = true := fun c hc =>
      isBare_of_mem_line hkey hvalue c (List.mem_append_right key hc)
    rw [skipBlanks_of_bare hbare]
    rfl
  have hskip := skipBlanks_of_bare hvalue (0 + key.length + 1)
  refine ⟨0 + key.length + 1, ?_⟩
  unfold Cursor.assignment
  rw [hread]
  split
  · next after hexport =>
    simp only [Option.some.injEq, Prod.mk.injEq] at hexport
    obtain ⟨hname, rfl⟩ := hexport
    rw [hequals]
    simp only [hskip, hname]
  · simp only [Cursor.keyEquals, hread, hequals, Except.map, hskip]

/-- A line that assigns a bare value has one entry, whose value is that text. -/
theorem readEntry_of_line (hne : value ≠ []) :
    readEntry (key ++ '=' :: value) = .ok (some ⟨String.ofList key, value.map Part.literal⟩) := by
  have hline := isBare_of_mem_line hkey hvalue
  obtain ⟨index, hassign⟩ := assignment_of_line hkey hvalue
  have hstart : Cursor.atEnd ⟨key ++ '=' :: value, 0⟩ = false := not_atEnd_of_bare hline (by simp) 0
  have hrest : Cursor.atEnd ⟨value, index⟩ = false := not_atEnd_of_bare hvalue hne index
  simp [readEntry, trimEnd_of_bare hline, skipBlanks_of_bare hline, hstart, hassign, hrest,
    readValue_of_bare hvalue, Except.map]

/-- A reader that has begun nothing takes the whole line. -/
theorem readText_of_line {ending : List Char} (hending : ending ∈ lineEndings) :
    Reader.start.readText (key ++ '=' :: value ++ ending) = ⟨[key ++ '=' :: value], [], .complete, none⟩ := by
  have hline := isBare_of_mem_line hkey hvalue
  have hsteady : ∀ c ∈ key ++ '=' :: value ++ ending, Mode.next .complete c = .complete := by
    intro c hc
    rcases List.mem_append.mp hc with hc | hc
    · exact next_complete_of_isBare (hline c hc)
    · exact next_complete_of_mem_ending hending c hc
  have hcomment : (Text.trimStart (key ++ '=' :: value ++ ending)).head? ≠ some '#' := by
    obtain ⟨c, rest, hc⟩ := List.exists_cons_of_ne_nil (l := key ++ '=' :: value) (by simp)
    have hbare : isBare c = true := hline c (hc ▸ List.mem_cons_self)
    rw [hc, List.cons_append, Text.trimStart, List.dropWhile_cons_of_neg (by simp [not_isBlank_of_isBare hbare])]
    simpa using ne_hash_of_isBare hbare
  have hscan := scan_of_complete hsteady []
  rw [List.append_nil] at hscan
  simp only [Reader.readText, Reader.start, List.isEmpty_nil, Bool.true_and, beq_iff_eq, hcomment, if_false,
    hscan, Reader.emit, dropEnd_of_bare hline (by simp) hending, List.reverse_reverse]

/-- The bytes of a line are one piece. -/
theorem cutAfter_of_line {ending : List Char} (hending : ending ∈ lineEndings) :
    Text.cutAfter 0x0a (String.ofList (key ++ '=' :: value ++ ending)).toUTF8.data.toList =
      [(String.ofList (key ++ '=' :: value ++ ending)).toUTF8.data.toList] := by
  have hnone {more : List Char} (hmore : '\n' ∉ more) :
      0x0a ∉ (String.ofList (key ++ '=' :: value ++ more)).toUTF8.data.toList := by
    intro hbyte
    have hfeed : '\n' ∈ key ++ '=' :: value ++ more := Text.mem_of_mem_toUTF8 (by decide) hbyte
    rcases List.mem_append.mp hfeed with hc | hc
    · exact absurd (isBare_of_mem_line hkey hvalue _ hc) (by decide)
    · exact hmore hc
  have hended (more : List Char) (hmore : '\n' ∉ more) :
      Text.cutAfter 0x0a (String.ofList (key ++ '=' :: value ++ (more ++ ['\n']))).toUTF8.data.toList =
        [(String.ofList (key ++ '=' :: value ++ (more ++ ['\n']))).toUTF8.data.toList] := by
    have hbytes : (String.ofList (key ++ '=' :: value ++ (more ++ ['\n']))).toUTF8.data.toList =
        (String.ofList (key ++ '=' :: value ++ more)).toUTF8.data.toList ++ [0x0a] := by
      rw [← List.append_assoc, Text.toList_toUTF8, List.flatMap_append, ← Text.toList_toUTF8]
      rfl
    rw [hbytes, Text.cutAfter_append_singleton (hnone hmore)]
  simp only [lineEndings, List.mem_cons, List.not_mem_nil, or_false] at hending
  rcases hending with rfl | rfl | rfl
  · refine Text.cutAfter_of_not_mem (hnone List.not_mem_nil) ?_
    rw [Text.toList_toUTF8]
    simp
  · exact hended [] List.not_mem_nil
  · exact hended ['\r'] (by decide)

/-- A file of one line that assigns a bare value has one entry, whose value is that text. -/
theorem parse_of_line (hne : value ≠ []) {ending : List Char} (hending : ending ∈ lineEndings) :
    parse (String.ofList (key ++ '=' :: value ++ ending)).toUTF8 =
      .ok [⟨String.ofList key, value.map Part.literal⟩] := by
  have hlines : readLines (String.ofList (key ++ '=' :: value ++ ending)).toUTF8 =
      ⟨[key ++ '=' :: value], [], .complete, none⟩ := by
    rw [readLines, cutAfter_of_line hkey hvalue hending]
    have hstart : Reader.start.fault.isSome = false := rfl
    simp only [List.foldl_cons, List.foldl_nil, Reader.readLine, hstart, Text.fromUTF8?_toArray, String.toList_ofList,
      readText_of_line hkey hvalue hending, Bool.false_eq_true, if_false]
  have hentry := readEntry_of_line hkey hvalue hne
  have hentries : [key ++ '=' :: value].mapM readEntry =
      .ok [some ⟨String.ofList key, value.map Part.literal⟩] := by
    rw [List.mapM_cons, hentry]
    rfl
  simp only [parse, hlines, List.reverse_singleton, hentries, Reader.endFault?]
  rfl

end Line

end EnvSeed.Dotenv
