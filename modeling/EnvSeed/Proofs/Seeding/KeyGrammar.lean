import EnvSeed.Proofs.Seeding.Stages
import EnvSeed.Proofs.Text.Leftmost
import EnvSeed.Proofs.Text.Lines
import EnvSeed.Proofs.Text.Trimming
import Mathlib.Data.List.Forall2

/-!
# The grammar of a key file

Which texts are key files, what they are read to, and what is said of any other text, as rules: a text falls into
lines, a line into a label and a value at its first separator, and each of the two is what stands between blanks.
Reading a text comes to what the rules say of it and to nothing else, so the rules never say two things.
-/

namespace EnvSeed.KeyFile

open Text (IsLeftmost IsTrimmed SplitsInto)

/-- What a line that should have one of the labels is read to: its value, or what is said of its first fault. -/
inductive Reads (accepted : List String) (line : List Char) : Except String (List Char) → Prop
  | value {before after label value : List Char} (hcut : IsLeftmost separator line before after)
      (hlabel : IsTrimmed before label) (haccepted : String.ofList label ∈ accepted)
      (hvalue : IsTrimmed after value) (hne : value ≠ []) : Reads accepted line (.ok value)
  | noSeparator (hnone : ¬separator <:+: line) : Reads accepted line (.error "missing 'label: value' separator")
  | unexpectedLabel {before after label : List Char} (hcut : IsLeftmost separator line before after)
      (hlabel : IsTrimmed before label) (hother : String.ofList label ∉ accepted) :
      Reads accepted line (.error (s!"unexpected label '{String.ofList label}', expected one of " ++
        ", ".intercalate (accepted.map fun choice => s!"'{choice}'")))
  | emptyValue {before after label : List Char} (hcut : IsLeftmost separator line before after)
      (hlabel : IsTrimmed before label) (haccepted : String.ofList label ∈ accepted) (hempty : IsTrimmed after []) :
      Reads accepted line (.error s!"empty value for '{String.ofList label}'")

/-- What a text is read to as the key file at a path: its key pair, or the failure for its first fault. -/
inductive Judged (path : Path) (text : List Char) : Except Failure KeyPair → Prop
  | tooFewLines {found : List (List Char)} (hlines : SplitsInto text found) (hshort : found.length < 2) :
      Judged path text (.error (.missingKeyFile path s!"expected at least 2 lines, found {found.length}"))
  | badFirst {first second : List Char} {more : List (List Char)} {reason : String}
      (hlines : SplitsInto text (first :: second :: more)) (hfirst : Reads publicLabels first (.error reason)) :
      Judged path text (.error (.malformedKeyFile path 1 reason))
  | badSecond {first second publicKey : List Char} {more : List (List Char)} {reason : String}
      (hlines : SplitsInto text (first :: second :: more)) (hfirst : Reads publicLabels first (.ok publicKey))
      (hsecond : Reads privateLabels second (.error reason)) :
      Judged path text (.error (.malformedKeyFile path 2 reason))
  | keys {first second publicKey privateKey : List Char} {more : List (List Char)}
      (hlines : SplitsInto text (first :: second :: more)) (hfirst : Reads publicLabels first (.ok publicKey))
      (hsecond : Reads privateLabels second (.ok privateKey)) :
      Judged path text (.ok ⟨String.ofList publicKey, String.ofList privateKey⟩)

/-- What is read from a labelled line, with its fault put into words. -/
def wording (accepted : List String) (line : List Char) : Except String (List Char) :=
  (labelled accepted line).mapError LineFault.reason

/-- A label is accepted if it is one of those that are. -/
theorem any_eq_label {accepted : List String} {label : List Char} :
    accepted.any (·.toList = label) = true ↔ String.ofList label ∈ accepted := by
  simp only [List.any_eq_true, decide_eq_true_eq]
  constructor
  · rintro ⟨choice, hchoice, rfl⟩
    rwa [String.ofList_toList]
  · intro hmem
    exact ⟨_, hmem, String.toList_ofList⟩

/-- A line is read by the rules. -/
theorem reads_wording (accepted : List String) (line : List Char) : Reads accepted line (wording accepted line) := by
  unfold wording labelled
  split
  · next hcut => exact .noSeparator (Text.cut?_eq_none_iff.mp hcut)
  · next before after hcut =>
    have hleft := Text.cut?_eq_some_iff.mp hcut
    have hlabel : IsTrimmed before (Text.trim before) := Text.trim_eq_iff.mp rfl
    have hvalue : IsTrimmed after (Text.trim after) := Text.trim_eq_iff.mp rfl
    simp only
    split
    · next hother =>
      refine .unexpectedLabel hleft hlabel fun hmem => ?_
      rw [any_eq_label.mpr hmem] at hother
      cases hother
    · next hnot =>
      have haccepted := any_eq_label.mp (by simpa using hnot)
      split
      · next hempty => exact .emptyValue hleft hlabel haccepted (List.isEmpty_iff.mp hempty ▸ hvalue)
      · next hne => exact .value hleft hlabel haccepted hvalue (by simpa using hne)

/-- The rules say one thing of a line, and it is read to that. -/
theorem wording_eq_iff {accepted : List String} {line : List Char} {result : Except String (List Char)} :
    wording accepted line = result ↔ Reads accepted line result := by
  constructor
  · rintro rfl
    exact reads_wording accepted line
  · intro h
    cases h with
    | noSeparator hnone =>
      simp only [wording, labelled, Text.cut?_eq_none_iff.mpr hnone]
      rfl
    | value hcut hlabel haccepted hvalue hne =>
      simp only [wording, labelled, Text.cut?_eq_some_iff.mpr hcut, Text.trim_eq_iff.mpr hlabel,
        Text.trim_eq_iff.mpr hvalue, any_eq_label.mpr haccepted, List.isEmpty_eq_false_iff.mpr hne]
      rfl
    | unexpectedLabel hcut hlabel hother =>
      have hany := Bool.eq_false_iff.mpr (mt any_eq_label.mp hother)
      simp only [wording, labelled, Text.cut?_eq_some_iff.mpr hcut, Text.trim_eq_iff.mpr hlabel, hany]
      rfl
    | emptyValue hcut hlabel haccepted hempty =>
      simp only [wording, labelled, Text.cut?_eq_some_iff.mpr hcut, Text.trim_eq_iff.mpr hlabel,
        Text.trim_eq_iff.mpr hempty, any_eq_label.mpr haccepted]
      rfl

/-- A line that the rules give a value is read to it. -/
theorem labelled_of_reads_value {accepted : List String} {line value : List Char}
    (h : Reads accepted line (.ok value)) : labelled accepted line = .ok value := by
  have hwording := wording_eq_iff.mpr h
  unfold wording at hwording
  cases hline : labelled accepted line with
  | error fault =>
    rw [hline] at hwording
    cases hwording
  | ok found =>
    rw [hline] at hwording
    exact congrArg Except.ok (Except.ok.inj hwording)

/-- A line that the rules give a reason is refused for a fault with that reason. -/
theorem labelled_of_reads_reason {accepted : List String} {line : List Char} {reason : String}
    (h : Reads accepted line (.error reason)) :
    ∃ fault, labelled accepted line = .error fault ∧ fault.reason = reason := by
  have hwording := wording_eq_iff.mpr h
  unfold wording at hwording
  cases hline : labelled accepted line with
  | error fault =>
    rw [hline] at hwording
    exact ⟨fault, rfl, Except.error.inj hwording⟩
  | ok found =>
    rw [hline] at hwording
    cases hwording

/-- A text is judged by the rules. -/
theorem judged_parse (path : Path) (text : List Char) :
    Judged path text ((parse text).mapError (KeyFileFault.failure path)) := by
  have hlines := Text.splitsInto_lines text
  unfold parse
  split
  · next first second more heq =>
    rw [heq] at hlines
    have hfirst := reads_wording publicLabels first
    have hsecond := reads_wording privateLabels second
    unfold wording at hfirst hsecond
    cases hpublic : labelled publicLabels first with
    | error fault =>
      rw [hpublic] at hfirst
      exact .badFirst hlines hfirst
    | ok publicKey =>
      rw [hpublic] at hfirst
      cases hprivate : labelled privateLabels second with
      | error fault =>
        rw [hprivate] at hsecond
        exact .badSecond hlines hfirst hsecond
      | ok privateKey =>
        rw [hprivate] at hsecond
        exact .keys hlines hfirst hsecond
  · next hshort =>
    refine .tooFewLines hlines (Nat.lt_of_not_le fun hle => ?_)
    match hfound : Text.lines text with
    | first :: second :: more => exact hshort first second more hfound
    | [_] => simp [hfound] at hle
    | [] => simp [hfound] at hle

/-- The rules judge a text in one way, and it is read that way. -/
theorem parse_eq_iff {path : Path} {text : List Char} {verdict : Except Failure KeyPair} :
    (parse text).mapError (KeyFileFault.failure path) = verdict ↔ Judged path text verdict := by
  constructor
  · rintro rfl
    exact judged_parse path text
  · intro h
    cases h with
    | tooFewLines hlines hshort =>
      have hfound := Text.lines_eq_iff.mpr hlines
      unfold parse
      split
      · next first second more heq =>
        rw [← hfound, heq] at hshort
        simp only [List.length_cons] at hshort
        omega
      · rw [hfound]
        rfl
    | badFirst hlines hfirst =>
      obtain ⟨fault, hfault, rfl⟩ := labelled_of_reads_reason hfirst
      simp only [parse, Text.lines_eq_iff.mpr hlines, hfault]
      rfl
    | badSecond hlines hfirst hsecond =>
      obtain ⟨fault, hfault, rfl⟩ := labelled_of_reads_reason hsecond
      simp only [parse, Text.lines_eq_iff.mpr hlines, labelled_of_reads_value hfirst, hfault]
      rfl
    | keys hlines hfirst hsecond =>
      simp only [parse, Text.lines_eq_iff.mpr hlines, labelled_of_reads_value hfirst, labelled_of_reads_value hsecond]
      rfl

/-- A file is read as its text is. -/
theorem load_of_readText {files : FileSystem} {path : Path} {text : String} (h : files.readText path = .ok text) :
    load files path = (parse text.toList).mapError (KeyFileFault.failure path) := by
  simp only [load, h]
  cases parse text.toList <;> rfl

/-- Lines that are read alike, whatever the labels. -/
def Alike (line other : List Char) : Prop :=
  ∀ accepted, labelled accepted other = labelled accepted line

namespace Alike

variable {line other another : List Char}

/-- A line is read like itself. -/
theorem refl (line : List Char) : Alike line line := fun _ => rfl

/-- Lines are read alike either way round. -/
theorem symm (h : Alike line other) : Alike other line := fun accepted => (h accepted).symm

/-- What is read like one of two lines that are read alike is read like the other. -/
theorem trans (h : Alike line other) (h' : Alike other another) : Alike line another := fun accepted =>
  (h' accepted).trans (h accepted)

/-- Lines are read like the same lines, one by one. -/
theorem forall₂_refl (lines : List (List Char)) : List.Forall₂ Alike lines lines :=
  List.forall₂_same.mpr fun line _ => refl line

end Alike

/-- Texts whose first two lines are read alike are read alike, also where there are not as many. -/
theorem parse_congr {text other : List Char}
    (h : List.Forall₂ Alike ((Text.lines text).take 2) ((Text.lines other).take 2)) : parse other = parse text := by
  unfold parse
  generalize Text.lines text = lines at h ⊢
  generalize Text.lines other = lines' at h ⊢
  match lines, lines', h with
  | [], [], _ => rfl
  | [_], [_], _ => rfl
  | first :: second :: _, first' :: second' :: _, .cons hfirst (.cons hsecond _) =>
    simp only [hfirst publicLabels, hsecond privateLabels]

/-- Every text, and a file with that text, is read to what the rules judge it to be, and to nothing else: to a key
pair exactly if it has two lines that each have an accepted label and a value, and otherwise to the failure for its
number of lines or for the first fault of the first line that has one. Later lines have no part in it. -/
theorem parse_eq_iff_judged (path : Path) (text : String) :
    let result := (parse text.toList).mapError (KeyFileFault.failure path)
    (∀ verdict, result = verdict ↔ Judged path text.toList verdict) ∧
    (∀ files : FileSystem, files.readText path = .ok text → load files path = result) ∧
    ∀ (first second other : List Char) (more more' : List (List Char)),
      SplitsInto text.toList (first :: second :: more) → SplitsInto other (first :: second :: more') →
        parse other = parse text.toList := by
  intro result
  refine ⟨fun _ => parse_eq_iff, fun _ => load_of_readText, fun first second other more more' htext hother => ?_⟩
  apply parse_congr
  rw [Text.lines_eq_iff.mpr htext, Text.lines_eq_iff.mpr hother]
  exact Alike.forall₂_refl [first, second]

/-- A value with a separator in it, and a second line that has a label between blanks and nothing but blanks behind
it, the last of them a carriage return at the end of the text. Nothing changes when more lines follow. -/
theorem parse_eq_iff_judged_blank :
    let path : Path := .ofString "keys.txt"
    let text := "Public Key (Address): a: b\r\n Private Key : \u00a0\r"
    let other := "Public Key (Address): a: b\n Private Key : \u00a0\r\r\n: "
    let files := (Seeding.sampleFiles "").store Seeding.sampleKeyFile (.file text.toUTF8 0o600)
    load files path = .error (.malformedKeyFile path 2 "empty value for 'Private Key'") ∧
      parse other.toList = parse text.toList := by
  intro path text other files
  let first := "Public Key (Address): a: b".toList
  let second := " Private Key : \u00a0\r".toList
  have hread : files.readText path = .ok text := eq_ok_of_toOption (by decide +kernel)
  have hparts : text.toList = first ++ '\r' :: '\n' :: second := by decide +kernel
  have hparts' : other.toList = first ++ '\n' :: (second ++ '\r' :: '\n' :: [':', ' ']) := by decide +kernel
  have hfeed : '\n' ∉ first := by decide
  have hfeed' : '\n' ∉ second := by decide
  have hreturn : ¬first.getLast? = some '\r' := by decide
  have htext : SplitsInto text.toList [first, second] := hparts ▸ .returnFeed hfeed (.last (by decide) hfeed')
  have hother : SplitsInto other.toList [first, second, [':', ' ']] :=
    hparts' ▸ .feed hfeed (fun _ hc heq => hreturn (heq ▸ hc)) (.returnFeed hfeed' (.last (by decide) (by decide)))
  have hcut : IsLeftmost separator first "Public Key (Address)".toList "a: b".toList :=
    Text.cut?_eq_some_iff.mp (by decide +kernel)
  have hlabel : IsTrimmed "Public Key (Address)".toList "Public Key (Address)".toList := Text.trim_eq_iff.mp (by decide)
  have hvalue : IsTrimmed "a: b".toList "a: b".toList := Text.trim_eq_iff.mp (by decide)
  have hcut' : IsLeftmost separator second " Private Key ".toList "\u00a0\r".toList :=
    Text.cut?_eq_some_iff.mp (by decide +kernel)
  have hlabel' : IsTrimmed " Private Key ".toList "Private Key".toList := Text.trim_eq_iff.mp (by decide)
  have hempty : IsTrimmed "\u00a0\r".toList [] := Text.trim_eq_iff.mp (by decide)
  have hreason : LineFault.reason (.emptyValue "Private Key".toList) = "empty value for 'Private Key'" := by
    decide +kernel
  obtain ⟨hverdict, hload, hlater⟩ := parse_eq_iff_judged path text
  have hresult := (hverdict _).mpr (.badSecond htext (.value hcut hlabel (by decide) hvalue (by decide))
    (.emptyValue hcut' hlabel' (by decide) hempty))
  rw [← hreason]
  exact ⟨(hload files hread).trans hresult, hlater _ _ _ [] _ htext hother⟩

end EnvSeed.KeyFile
