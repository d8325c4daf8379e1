import EnvSeed.Toml.Document

/-!
# Spelling a document

Headers and keys without quotes, and texts in double quotes, one to a line: whatever the texts are, such a document
reads as the statements of its lines. A text is spelled with a backslash before a quote and before a backslash, and
with the code points of the controls that no string can hold.
-/

namespace EnvSeed.Toml

/-- The characters that stand for one of a text in double quotes. -/
def spell (c : Char) : List Char :=
  if c = '\x22' ∨ c = '\x5c' then ['\x5c', c]
  else if isTextChar c then [c]
  else ['\x5c', 'u', '0', '0', Nat.digitChar (c.toNat / 16), Nat.digitChar (c.toNat % 16)]

/-- A text in double quotes. -/
def quoted (text : String) : List Char :=
  '\x22' :: (text.toList.flatMap spell ++ ['\x22'])

/-- The digits of a code point read as its values. -/
theorem hexDigit?_digitChar : ∀ digit < 16, hexDigit? (Nat.digitChar digit) = some digit := by
  decide

/-- Only controls cannot stand in a text. -/
theorem toNat_lt_of_not_isTextChar {c : Char} (h : isTextChar c = false) : c.toNat < 128 := by
  simp only [isTextChar, Bool.or_eq_false_iff, Bool.and_eq_false_iff, decide_eq_false_iff_not, Char.le_def,
    UInt32.le_iff_toNat_le] at h
  rcases h.2 with h | h
  · have hspace : (' ' : Char).val.toNat = 32 := rfl
    have : c.val.toNat < 32 := by omega
    exact Nat.lt_trans this (by decide)
  · have : c = '\x7f' := by simpa using h
    subst this
    decide

/-- What is spelled reads as the character that it stands for. -/
theorem basicLine_spell (c : Char) (done rest : List Char) :
    basicLine .text done (spell c ++ rest) = basicLine .text (c :: done) rest := by
  unfold spell
  split
  · next h =>
    rcases h with rfl | rfl <;> rfl
  · next hplain =>
    obtain ⟨hquote, hslash⟩ := not_or.mp hplain
    split
    · next htext =>
      simp [basicLine, Spelling.next, hquote, hslash, htext]
    · next htext =>
      have hsmall := toNat_lt_of_not_isTextChar (by simpa using htext)
      have hhigh := hexDigit?_digitChar (c.toNat / 16) (by omega)
      have hlow := hexDigit?_digitChar (c.toNat % 16) (by omega)
      have hvalue : 16 * (c.toNat / 16) + c.toNat % 16 = c.toNat := Nat.div_add_mod c.toNat 16
      have hzero : hexDigit? '0' = some 0 := rfl
      have hvalid : c.toNat.isValidChar := c.valid
      simp [basicLine, Spelling.next, Spelling.closes, afterBackslash, afterDigit, hzero, hhigh, hlow, hvalue, scalar?,
        hvalid]

/-- A spelled text reads as itself, up to the quote that closes it. -/
theorem basicLine_flatMap_spell (text done rest : List Char) :
    basicLine .text done (text.flatMap spell ++ '\x22' :: rest) = some (reversedText (text.reverse ++ done), rest) := by
  induction text generalizing done with
  | nil => rfl
  | cons c text ih =>
    rw [List.flatMap_cons, List.append_assoc, basicLine_spell, ih, List.reverse_cons, List.append_assoc]
    rfl

/-- A quote that no two more follow opens a string on one line. -/
theorem string?_quote {text : List Char} (h : ∀ rest, text ≠ '\x22' :: '\x22' :: rest) :
    string? ('\x22' :: text) = basicLine .text [] text := by
  rw [string?]
  exact h

/-- No character is spelled with a quote at the start. -/
theorem spell_append_ne (c : Char) (rest other : List Char) : spell c ++ rest ≠ '\x22' :: other := by
  unfold spell
  split
  · simp
  · next hplain =>
    split
    · simpa using fun h => absurd h (not_or.mp hplain).1
    · simp

/-- A text in double quotes reads as itself, if it cannot be taken for the start of a string of lines. -/
theorem string?_quoted (text : String) {rest : List Char} (h : rest.head? ≠ some '\x22') :
    string? (quoted text ++ rest) = some (text, rest) := by
  have hread := basicLine_flatMap_spell text.toList [] rest
  simp only [List.append_nil, reversedText, List.reverse_reverse, String.ofList_toList] at hread
  unfold quoted
  rw [List.cons_append, List.append_assoc, List.singleton_append, string?_quote, hread]
  intro tail heq
  cases hchars : text.toList with
  | nil =>
    rw [hchars] at heq
    simp only [List.flatMap_nil, List.nil_append, List.cons.injEq, true_and] at heq
    exact h (by rw [heq]; rfl)
  | cons c chars =>
    rw [hchars, List.flatMap_cons, List.append_assoc] at heq
    exact spell_append_ne c _ _ heq

/-- A name that needs no quotes. -/
def IsBare (name : String) : Prop :=
  name.toList ≠ [] ∧ ∀ c ∈ name.toList, isBareChar c = true

instance (name : String) : Decidable (IsBare name) :=
  decidable_of_iff ((!name.toList.isEmpty && name.toList.all isBareChar) = true) (by simp [IsBare])

/-- A line that says something: a header, or a key with a text. -/
inductive Line
  | header (name : String)
  | pair (key text : String)

namespace Line

/-- The name in a line. -/
def name : Line → String
  | header name => name
  | pair key _ => key

/-- The characters of a line, with its end. -/
def written : Line → List Char
  | header name => '[' :: (name.toList ++ [']', '\n'])
  | pair key text => key.toList ++ (' ' :: '=' :: ' ' :: (quoted text ++ ['\n']))

/-- What a line says. -/
def statement : Line → Statement
  | header name => .table [] name
  | pair key text => .pair [] key (.string text)

end Line

variable {name : String}

/-- The characters of names are none of those that have a meaning of their own. -/
theorem ne_of_isBareChar {c other : Char} (h : isBareChar c = true) (hother : isBareChar other = false) :
    c ≠ other := by
  rintro rfl
  cases h.symm.trans hother

/-- A name without quotes starts with one of its characters. -/
theorem IsBare.exists_cons (h : IsBare name) : ∃ c rest, name.toList = c :: rest ∧ isBareChar c = true := by
  obtain ⟨hne, hbare⟩ := h
  obtain ⟨c, rest, hchars⟩ := List.exists_cons_of_ne_nil hne
  exact ⟨c, rest, hchars, hbare c (hchars ▸ List.mem_cons_self)⟩

/-- Nothing is passed over where there is no blank. -/
theorem skipSpace_of_ne {c : Char} (hblank : c ≠ ' ') (htab : c ≠ '\t') (rest : List Char) :
    skipSpace (c :: rest) = c :: rest := by
  rw [skipSpace, List.dropWhile_cons_of_neg (by simp [isSpace, hblank, htab])]

/-- There are no blanks before a name. -/
theorem skipSpace_bare (h : IsBare name) (rest : List Char) :
    skipSpace (name.toList ++ rest) = name.toList ++ rest := by
  obtain ⟨c, tail, hchars, hc⟩ := h.exists_cons
  rw [hchars, List.cons_append, skipSpace_of_ne (ne_of_isBareChar hc (by decide)) (ne_of_isBareChar hc (by decide))]

/-- A name without quotes reads as itself, up to a character that cannot stand in one. -/
theorem name?_bare (h : IsBare name) {c : Char} (hc : isBareChar c = false) (rest : List Char) :
    name? (name.toList ++ c :: rest) = some (name, c :: rest) := by
  obtain ⟨first, tail, hchars, hfirst⟩ := h.exists_cons
  have htake : (name.toList ++ c :: rest).takeWhile isBareChar = name.toList := by
    rw [List.takeWhile_append_of_pos h.2, List.takeWhile_cons_of_neg (by simp [hc]), List.append_nil]
  rw [name?, htake, List.isEmpty_eq_false_iff.mpr h.1, if_neg Bool.false_ne_true, String.ofList_toList,
    List.drop_left]
  · intro other heq
    rw [hchars] at heq
    exact ne_of_isBareChar hfirst (by decide) (List.cons.inj heq).1
  · intro other heq
    rw [hchars] at heq
    exact ne_of_isBareChar hfirst (by decide) (List.cons.inj heq).1

/-- A name with a character behind it that is neither a dot nor a blank nor part of a name is a key of one name. -/
theorem key?_bare (h : IsBare name) {c : Char} (hc : isBareChar c = false) {rest after : List Char}
    (hskip : skipSpace (c :: rest) = after) (hdot : ∀ other, after ≠ '.' :: other) :
    key? (name.toList ++ c :: rest) = some (([], name), after) := by
  have hnames : names? (depthLimit - 1) (name.toList ++ c :: rest) = some ([name], after) := by
    rw [show depthLimit - 1 = 78 + 1 from rfl, names?, skipSpace_bare h, name?_bare h hc]
    simp only [hskip]
  rw [key?, hnames]
  simp

/-- A text in double quotes is a value, if it cannot be taken for the start of a string of lines. -/
theorem value?_quoted (depth : Nat) (text : String) {rest : List Char} (h : rest.head? ≠ some '\x22') :
    value? depth (quoted text ++ rest) = some (.string text, rest) := by
  have hread := string?_quoted text h
  rw [value?]
  · simp only [hread]
  · simp [quoted]
  · simp [quoted]

/-- A line reads as what it says. -/
theorem statement?_written {line : Line} (h : IsBare line.name) (rest : List Char) :
    statement? (line.written ++ rest) = some (line.statement, '\n' :: rest) := by
  obtain ⟨c, tail, hchars, hc⟩ := h.exists_cons
  have hopen : c ≠ '[' := ne_of_isBareChar hc (by decide)
  cases line with
  | header name =>
    have hkey : key? (name.toList ++ ']' :: '\n' :: rest) = some (([], name), ']' :: '\n' :: rest) :=
      key?_bare h (by decide) rfl (by simp)
    have hheader : header? [']'] (name.toList ++ ']' :: '\n' :: rest) = some (([], name), '\n' :: rest) := by
      rw [header?, hkey]
      rfl
    simp only [Line.written, List.cons_append, List.append_assoc, List.nil_append]
    rw [statement?, hheader]
    · rfl
    · intro other heq
      rw [show name.toList = c :: tail from hchars] at heq
      exact hopen (List.cons.inj heq).1
  | pair key text =>
    have hkey (other : List Char) : key? (key.toList ++ ' ' :: '=' :: other) = some (([], key), '=' :: other) :=
      key?_bare h (by decide) rfl (by simp)
    have hvalue : value? (depthLimit - 1) (quoted text ++ '\n' :: rest) = some (.string text, '\n' :: rest) :=
      value?_quoted (depthLimit - 1) text (by simp)
    have hpair : pair? (value? (depthLimit - 1)) ((Line.pair key text).written ++ rest) =
        some (([], key), .string text, '\n' :: rest) := by
      have hskip : skipSpace (' ' :: (quoted text ++ '\n' :: rest)) = quoted text ++ '\n' :: rest := rfl
      simp only [Line.written, List.cons_append, List.append_assoc, List.nil_append]
      simp only [pair?, hkey, hskip, hvalue, Option.map_some]
    have hfirst : (Line.pair key text).written ++ rest =
        c :: (tail ++ ' ' :: '=' :: ' ' :: (quoted text ++ '\n' :: rest)) := by
      simp [Line.written, show key.toList = c :: tail from hchars]
    rw [hfirst] at hpair ⊢
    rw [statement?, hpair]
    · rfl
    · exact fun _ heq => hopen (List.cons.inj heq).1
    · exact fun _ heq => hopen (List.cons.inj heq).1

/-- A line starts with a bracket or with a character of a name. -/
theorem Line.exists_cons {line : Line} (h : IsBare line.name) :
    ∃ c rest, line.written = c :: rest ∧ (c = '[' ∨ isBareChar c = true) := by
  cases line with
  | header name => exact ⟨_, _, rfl, .inl rfl⟩
  | pair key text =>
    have hkey : IsBare key := h
    obtain ⟨c, tail, hchars, hc⟩ := hkey.exists_cons
    exact ⟨c, _, by rw [Line.written, hchars, List.cons_append], .inr hc⟩

/-- The characters of a document with these lines. -/
def writtenLines (lines : List Line) : List Char :=
  lines.flatMap Line.written

/-- A line that is read is followed by the rest of the lines. -/
theorem statements?_written_append {line : Line} (h : IsBare line.name) (fuel : Nat) (done : List Statement)
    (rest : List Char) :
    statements? (fuel + 1) done (line.written ++ rest) = statements? fuel (line.statement :: done) rest := by
  obtain ⟨c, tail, hwritten, hfirst⟩ := Line.exists_cons h
  have hne {other : Char} (hbracket : '[' ≠ other) (hbare : isBareChar other = false) : c ≠ other :=
    hfirst.elim (fun heq => heq ▸ hbracket) fun hc => ne_of_isBareChar hc hbare
  have hskip : skipSpace (c :: (tail ++ rest)) = c :: (tail ++ rest) :=
    skipSpace_of_ne (hne (by decide) (by decide)) (hne (by decide) (by decide)) _
  have hread := statement?_written h rest
  have hend : trailing? ('\n' :: rest) = some rest := rfl
  rw [hwritten, List.cons_append] at hread ⊢
  rw [statements?, hskip]
  split
  · next heq => cases heq
  · next heq => exact absurd (List.cons.inj heq).1 (hne (by decide) (by decide))
  · next heq => exact absurd (List.cons.inj heq).1 (hne (by decide) (by decide))
  · simp only [hread, hend]

/-- Lines read as what they say, one after the other. -/
theorem statements?_written {lines : List Line} (h : ∀ line ∈ lines, IsBare line.name) {fuel : Nat}
    (hfuel : lines.length < fuel) (done : List Statement) :
    statements? fuel done (writtenLines lines) = some (done.reverse ++ lines.map Line.statement) := by
  induction lines generalizing fuel done with
  | nil =>
    obtain ⟨fuel, rfl⟩ := Nat.exists_eq_succ_of_ne_zero (Nat.ne_zero_of_lt hfuel)
    simp [writtenLines, statements?, skipSpace]
  | cons line lines ih =>
    obtain ⟨fuel, rfl⟩ := Nat.exists_eq_succ_of_ne_zero (Nat.ne_zero_of_lt hfuel)
    rw [List.forall_mem_cons] at h
    rw [writtenLines, List.flatMap_cons, statements?_written_append h.1, ← writtenLines,
      ih h.2 (Nat.lt_of_succ_lt_succ hfuel), List.reverse_cons, List.append_assoc]
    rfl

/-- What has no carriage returns is left as it is. -/
theorem normalizeFrom_of_not_mem {text : List Char} (h : '\r' ∉ text) (done : List Char) :
    normalizeFrom done text = some (done.reverse ++ text) := by
  induction text generalizing done with
  | nil => simp [normalizeFrom]
  | cons c text ih =>
    simp only [List.mem_cons, not_or] at h
    obtain ⟨hc, htext⟩ := h
    rw [normalizeFrom]
    · rw [if_neg (Ne.symm hc), ih htext]
      simp
    · exact fun _ heq _ => hc heq.symm

/-- No spelling has a carriage return. -/
theorem return_not_mem_spell (c : Char) : '\r' ∉ spell c := by
  have hdigit : ∀ digit < 16, Nat.digitChar digit ≠ '\r' := by decide
  unfold spell
  split
  · next h => rcases h with rfl | rfl <;> decide
  · split
    · next htext =>
      rw [List.mem_singleton]
      rintro rfl
      cases htext
    · next htext =>
      have hsmall := toNat_lt_of_not_isTextChar (by simpa using htext)
      simp [(hdigit (c.toNat / 16) (by omega)).symm, (hdigit (c.toNat % 16) (by omega)).symm]

/-- No line has a carriage return. -/
theorem return_not_mem_written {line : Line} (h : IsBare line.name) : '\r' ∉ line.written := by
  have hname : '\r' ∉ line.name.toList := fun hmem => absurd (h.2 _ hmem) (by decide)
  cases line with
  | header name => simpa [Line.written, Line.name] using hname
  | pair key text =>
    have htext : '\r' ∉ text.toList.flatMap spell := by
      simp [return_not_mem_spell]
    simpa [Line.written, Line.name, quoted, htext] using hname

/-- There are no more lines than characters. -/
theorem length_le_writtenLines (lines : List Line) : lines.length ≤ (writtenLines lines).length := by
  induction lines with
  | nil => exact Nat.le_refl _
  | cons line lines ih =>
    have hline : 0 < line.written.length := by
      cases line <;> simp only [Line.written, List.length_append, List.length_cons] <;> omega
    simp only [writtenLines, List.flatMap_cons, List.length_append, List.length_cons] at ih ⊢
    omega

/-- A document that is written in lines with bare names says what its lines say, whatever their texts are. -/
theorem parse?_written {lines : List Line} (h : ∀ line ∈ lines, IsBare line.name) :
    parse? (String.ofList (writtenLines lines)) = build (lines.map Line.statement) := by
  have hreturn : '\r' ∉ writtenLines lines := by
    simp only [writtenLines, List.mem_flatMap, not_exists, not_and]
    exact fun line hline => return_not_mem_written (h line hline)
  have hmark : skipMark (writtenLines lines) = writtenLines lines := by
    cases lines with
    | nil => rfl
    | cons line lines =>
      obtain ⟨c, tail, hwritten, hfirst⟩ := Line.exists_cons (h line List.mem_cons_self)
      rw [writtenLines, List.flatMap_cons, hwritten, List.cons_append, skipMark]
      intro other heq
      obtain rfl := (List.cons.inj heq).1
      rcases hfirst with hbracket | hbare
      · cases hbracket
      · cases hbare
  rw [parse?, String.toList_ofList, hmark, normalizeFrom_of_not_mem hreturn]
  simp only [List.reverse_nil, List.nil_append]
  rw [statements?_written h (Nat.lt_succ_of_le (length_le_writtenLines lines))]
  rfl

end EnvSeed.Toml
