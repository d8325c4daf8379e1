import EnvSeed.Proofs.Seeding.KeyGrammar

/-!
# The values of a key file

The two values that a key file is read to are never empty, have no line feed in them and no blank at their
ends. Every pair of such values can be written as a key file that is read to them again.
-/

namespace EnvSeed.KeyFile

/-- A text that can be the value of a line: one line, with something in it, and no blank at either end. -/
structure IsValue (value : List Char) : Prop where
  ne_nil : value ≠ []
  feed_not_mem : '\n' ∉ value
  head : ∀ c ∈ value.head?, Text.isBlank c = false
  last : ∀ c ∈ value.getLast?, Text.isBlank c = false

/-- A value behind its label. -/
def line (label : String) (value : List Char) : List Char :=
  label.toList ++ separator ++ value

/-- A key file with the two values of a key pair. -/
def written (keys : KeyPair) : List Char :=
  line "Verification Key (Address)" keys.verificationKey.toList ++
    '\n' :: (line "Full Private Key" keys.privateKey.toList ++ ['\n'])

/-- The value that a line is read to has no blank at its ends. -/
theorem isValue_of_labelled {accepted : List String} {text value : List Char}
    (h : labelled accepted text = .ok value) (hfeed : '\n' ∉ text) : IsValue value := by
  have hreads := reads_wording accepted text
  rw [wording, h] at hreads
  cases hreads with
  | value hcut _ _ hvalue hne =>
    refine ⟨hne, fun hmem => hfeed ?_, hvalue.head, hvalue.last⟩
    obtain ⟨front, back, hafter, -⟩ := hvalue.between
    simp [hcut.text_eq, hafter, hmem]

/-- A key file is read to values. -/
theorem isValue_of_parse {text : List Char} {keys : KeyPair} (h : parse text = .ok keys) :
    IsValue keys.verificationKey.toList ∧ IsValue keys.privateKey.toList := by
  unfold parse at h
  split at h
  · next first second rest hlines =>
    have hfirst : '\n' ∉ first := Text.feed_not_mem_of_mem_lines (hlines ▸ List.mem_cons_self)
    have hsecond : '\n' ∉ second :=
      Text.feed_not_mem_of_mem_lines (hlines ▸ List.mem_cons_of_mem first List.mem_cons_self)
    split at h
    · cases h
    · next publicKey hpublic =>
      split at h
      · cases h
      · next privateKey hprivate =>
        obtain rfl := Except.ok.inj h
        simp only [String.toList_ofList]
        exact ⟨isValue_of_labelled hpublic hfirst, isValue_of_labelled hprivate hsecond⟩
  · cases h

/-- What a key file is loaded to are values. -/
theorem isValue_of_load {files : FileSystem} {path : Path} {keys : KeyPair} (h : load files path = .ok keys) :
    IsValue keys.verificationKey.toList ∧ IsValue keys.privateKey.toList := by
  unfold load at h
  split at h
  · cases h
  · next text _ =>
    split at h
    · cases h
    · next found hparse => exact Except.ok.inj h ▸ isValue_of_parse hparse

section Written

variable {label : String} {value : List Char}

/-- The value of a line is read from it, behind any label that is accepted. -/
theorem labelled_line {accepted : List String} (hlabel : label ∈ accepted) (hcolon : ':' ∉ label.toList)
    (htrim : Text.trim label.toList = label.toList) (hvalue : IsValue value) :
    labelled accepted (line label value) = .ok value := by
  have hcut : Text.IsLeftmost separator (line label value) label.toList value := Text.isLeftmost_of_not_mem hcolon
  have haccepted : String.ofList label.toList ∈ accepted := by rwa [String.ofList_toList]
  have hvalue' : Text.IsTrimmed value value := Text.trim_eq_iff.mp (Text.trim_of_ends hvalue.head hvalue.last)
  exact labelled_of_reads_value (.value hcut (Text.trim_eq_iff.mp htrim) haccepted hvalue' hvalue.ne_nil)

/-- A line ends with its value, and so with no blank. -/
theorem last_line (hvalue : IsValue value) : ∀ c ∈ (line label value).getLast?, c ≠ '\r' := by
  intro c hc heq
  have hlast : value.getLast? = some c := by
    have hvalue' := List.getLast?_eq_some_getLast hvalue.ne_nil
    rw [line, List.getLast?_append, hvalue'] at hc
    exact hvalue'.trans hc
  have hblank := hvalue.last c hlast
  rw [heq] at hblank
  exact absurd hblank (by decide)

/-- A line has no line feed in it if its label has none. -/
theorem feed_not_mem_line (hlabel : '\n' ∉ label.toList) (hvalue : IsValue value) : '\n' ∉ line label value := by
  have hseparator : '\n' ∉ separator := by decide
  simp [line, hlabel, hseparator, hvalue.feed_not_mem]

/-- A key file that was written is read to its values again. -/
theorem parse_written {keys : KeyPair} (hpublic : IsValue keys.verificationKey.toList)
    (hprivate : IsValue keys.privateKey.toList) : parse (written keys) = .ok keys := by
  have hlines : Text.lines (written keys) = [line "Verification Key (Address)" keys.verificationKey.toList,
      line "Full Private Key" keys.privateKey.toList] := by
    rw [written, Text.lines_append_feed (feed_not_mem_line (by decide) hpublic) (last_line hpublic),
      Text.lines_append_feed (feed_not_mem_line (by decide) hprivate) (last_line hprivate)]
    rfl
  have hfirst : labelled publicLabels (line "Verification Key (Address)" _) = .ok _ :=
    labelled_line (by decide) (by decide) (by decide) hpublic
  have hsecond : labelled privateLabels (line "Full Private Key" _) = .ok _ :=
    labelled_line (by decide) (by decide) (by decide) hprivate
  simp only [parse, hlines, hfirst, hsecond, String.ofList_toList]

end Written

end EnvSeed.KeyFile
