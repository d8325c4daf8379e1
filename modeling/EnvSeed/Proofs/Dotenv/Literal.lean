import EnvSeed.Proofs.Dotenv.Entries
import EnvSeed.Proofs.Dotenv.Variables

/-!
# Files without a dollar sign

Only a dollar sign begins the name of a variable. What is not in a file is in none of its logical lines, so no entry
of a file without a dollar sign reads a variable: its value is the same whatever variables mean.
-/

namespace EnvSeed.Dotenv

variable {c : Char}

/-- The character is in no line that was read, nor in the one that was begun. -/
structure Reader.Lacks (c : Char) (reader : Reader) : Prop where
  done : ∀ line ∈ reader.done, c ∉ line
  begun : c ∉ reader.begun

/-- Reading on through a line keeps none but its characters and those that were kept before. -/
theorem not_mem_scan {mode : Mode} {kept text : List Char} (hkept : c ∉ kept) (htext : c ∉ text) :
    c ∉ (scan mode kept text).1 := by
  induction text generalizing mode kept with
  | nil => exact hkept
  | cons d rest ih =>
    obtain ⟨hd, hrest⟩ : c ≠ d ∧ c ∉ rest := by simpa using htext
    unfold scan
    split
    · exact hkept
    · exact ih (by simp [hd, hkept]) hrest

/-- Dropping the end of a line adds no character to it. -/
theorem not_mem_dropEnd {kept : List Char} (h : c ∉ kept) : c ∉ dropEnd kept := by
  unfold dropEnd
  split
  · exact fun hmem => h (List.mem_cons_of_mem _ (List.mem_cons_of_mem _ hmem))
  · exact fun hmem => h (List.mem_cons_of_mem _ hmem)
  · exact h

namespace Reader

variable {reader : Reader}

/-- A line that ends without the character leaves the reader without it. -/
theorem Lacks.emit (h : reader.Lacks c) {kept : List Char} (hkept : c ∉ kept) : (reader.emit kept).Lacks c := by
  refine ⟨fun line hline => ?_, List.not_mem_nil⟩
  rcases List.mem_cons.mp hline with rfl | hline
  · rwa [List.mem_reverse]
  · exact h.done line hline

/-- Reading a text without the character leaves the reader without it. -/
theorem Lacks.readText (h : reader.Lacks c) {text : List Char} (htext : c ∉ text) : (reader.readText text).Lacks c := by
  have hkept : c ∉ (scan reader.mode reader.begun text).1 := not_mem_scan h.begun htext
  unfold Reader.readText
  split
  · exact h
  · split
    · next hscan => exact h.emit (by rwa [hscan] at hkept)
    · next hscan => exact h.emit (not_mem_dropEnd (by rwa [hscan] at hkept))
    · next hscan => exact ⟨h.done, by rwa [hscan] at hkept⟩

/-- Reading bytes without the byte of the character leaves the reader without it. -/
theorem Lacks.readLine (h : reader.Lacks c) (hc : c.toNat < 128) {bytes : List UInt8}
    (hbytes : UInt8.ofNat c.toNat ∉ bytes) : (reader.readLine bytes).Lacks c := by
  unfold Reader.readLine
  split
  · exact h
  · split
    · exact ⟨h.done, h.begun⟩
    · next text htext =>
      refine h.readText fun hmem => hbytes ?_
      have hwritten := Text.eq_toUTF8_of_fromUTF8? htext
      have hbyte := Text.mem_toUTF8_of_mem hc hmem
      rwa [String.ofList_toList, ← hwritten] at hbyte

/-- Reading lines without the byte of the character leaves the reader without it. -/
theorem Lacks.foldl (h : reader.Lacks c) (hc : c.toNat < 128) {pieces : List (List UInt8)}
    (hpieces : ∀ piece ∈ pieces, UInt8.ofNat c.toNat ∉ piece) : (pieces.foldl Reader.readLine reader).Lacks c := by
  induction pieces generalizing reader with
  | nil => exact h
  | cons piece rest ih =>
    exact ih (h.readLine hc (hpieces piece List.mem_cons_self)) fun other hother =>
      hpieces other (List.mem_cons_of_mem piece hother)

end Reader

/-- What is not in a file is in none of its logical lines. -/
theorem lacks_readLines (hc : c.toNat < 128) {bytes : ByteArray} (h : UInt8.ofNat c.toNat ∉ bytes.data.toList) :
    (readLines bytes).Lacks c := by
  refine Reader.Lacks.foldl ⟨by simp [Reader.start], by simp [Reader.start]⟩ hc fun piece hpiece hmem => h ?_
  rw [← Text.flatten_cutAfter 0x0a bytes.data.toList]
  exact List.mem_flatten.mpr ⟨piece, hpiece, hmem⟩

/-- Every part is a character. -/
def IsLiteral (parts : List Part) : Prop :=
  ∀ name, .variableNamed name ∉ parts

/-- One more character leaves the parts literal. -/
theorem IsLiteral.cons {parts : List Part} (h : IsLiteral parts) (meant : Char) :
    IsLiteral (.literal meant :: parts) := by
  intro name hmem
  rcases List.mem_cons.mp hmem with heq | hmem
  · cases heq
  · exact h name hmem

/-- The place is not inside the name of a variable. -/
def Place.IsOutside : Place → Prop
  | .name .. | .braced .. => False
  | _ => True

/-- No name was begun, and none is among the parts. -/
structure Progress.IsLiteral (progress : Progress) : Prop where
  place : progress.place.IsOutside
  parts : Dotenv.IsLiteral progress.parts

/-- A character other than the dollar sign begins no name. -/
theorem isLiteral_readPlain (hc : c ≠ '$') (quoted : Bool) {parts : List Part} (h : IsLiteral parts) :
    (readPlain quoted parts c).IsLiteral := by
  unfold readPlain
  rw [if_neg hc]
  split
  · exact ⟨trivial, h⟩
  split
  · exact ⟨trivial, h⟩
  split
  · exact ⟨trivial, h.cons c⟩
  split
  · exact ⟨trivial, h⟩
  split
  · exact ⟨trivial, h⟩
  · exact ⟨trivial, h.cons c⟩

/-- A character other than the dollar sign leaves the progress literal. -/
theorem Progress.IsLiteral.read {progress next : Progress} (h : progress.IsLiteral) (hc : c ≠ '$')
    (hread : progress.read c = some next) : next.IsLiteral := by
  obtain ⟨place, parts⟩ := progress
  unfold Progress.read at hread
  cases place with
  | plain quoted =>
    obtain rfl := Option.some.inj hread
    exact isLiteral_readPlain hc quoted h.parts
  | escaped quoted =>
    obtain ⟨meant, -, rfl⟩ := Option.map_eq_some_iff.mp hread
    exact ⟨trivial, h.parts.cons meant⟩
  | strong =>
    simp only at hread
    split at hread
    · obtain rfl := Option.some.inj hread
      exact ⟨trivial, h.parts⟩
    · obtain rfl := Option.some.inj hread
      exact ⟨trivial, h.parts.cons c⟩
  | name => exact h.place.elim
  | braced => exact h.place.elim
  | ended =>
    simp only at hread
    split at hread
    · obtain rfl := Option.some.inj hread
      exact h
    · cases hread

/-- Reading a text without a dollar sign leaves the progress literal. -/
theorem Progress.IsLiteral.readFrom {text : List Char} (htext : '$' ∉ text) {index : Nat} {progress last : Progress}
    (h : progress.IsLiteral) (hread : Dotenv.readFrom index progress text = .ok last) : last.IsLiteral := by
  induction text generalizing index progress with
  | nil =>
    obtain rfl := Except.ok.inj hread
    exact h
  | cons d rest ih =>
    obtain ⟨hd, hrest⟩ : '$' ≠ d ∧ '$' ∉ rest := by simpa using htext
    unfold Dotenv.readFrom at hread
    split at hread
    · obtain rfl := Except.ok.inj hread
      exact h
    · split at hread
      · cases hread
      · next next hnext => exact ih hrest (h.read hd.symm hnext) hread

/-- The value of a text without a dollar sign is literal. -/
theorem isLiteral_of_readValue {text : List Char} (htext : '$' ∉ text) {parts : List Part}
    (h : readValue text = .ok parts) : IsLiteral parts := by
  have hstart : Progress.IsLiteral ⟨.plain false, []⟩ := ⟨trivial, fun _ => List.not_mem_nil⟩
  unfold readValue at h
  split at h
  · cases h
  · next progress hread =>
    obtain ⟨hplace, hparts⟩ := hstart.readFrom htext hread
    split at h
    · next found hfinish =>
      obtain rfl := Except.ok.inj h
      -- A place outside of names adds no variable at the end.
      have hfound : found = progress.parts.reverse := by
        unfold Progress.finish? at hfinish
        split at hfinish <;> simp_all [Place.IsOutside]
      intro name hmem
      rw [hfound, List.mem_reverse] at hmem
      exact hparts name hmem
    · cases h

/-- No entry of a file without a dollar sign reads a variable. -/
theorem not_reads_of_not_mem {bytes : ByteArray} (hbytes : 0x24 ∉ bytes.data.toList) {entries : List Entry}
    (h : parse bytes = .ok entries) {entry : Entry} (hentry : entry ∈ entries) (name : String) :
    ¬entry.Reads name := by
  obtain ⟨line, hline, hread⟩ := exists_line_of_mem h hentry
  have hlacks : '$' ∉ line := (lacks_readLines (c := '$') (by decide) hbytes).done line hline
  obtain ⟨-, hempty | ⟨text, htext, hvalue⟩⟩ := entry_of_readEntry hread
  · rw [Entry.Reads, hempty]
    exact List.not_mem_nil
  · exact isLiteral_of_readValue (fun hmem => hlacks (htext.subset hmem)) hvalue name

end EnvSeed.Dotenv
