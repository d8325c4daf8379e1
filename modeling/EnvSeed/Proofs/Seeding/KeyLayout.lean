import EnvSeed.Proofs.Dotenv.Yields
import EnvSeed.Proofs.Seeding.KeyGrammar
import Mathlib.Logic.Relation

/-!
# The layout of a key file

How the lines of a key file end, which blanks stand around its values and what comes after its second line make no
difference to what it is read to. A text that is no key file is likewise refused for the same fault of the same line.
-/

namespace EnvSeed.KeyFile

open Dotenv (AtLineEnd)
open Text (IsLeftmost isBlank)

/-- Lines that are the same before their first separator, and but for blanks behind it, are read alike. -/
theorem alike_of_isLeftmost {line other before after after' : List Char} (h : IsLeftmost separator line before after)
    (h' : IsLeftmost separator other before after') (htrim : Text.trim after' = Text.trim after) :
    Alike line other := by
  intro accepted
  simp only [labelled, Text.cut?_eq_some_iff.mpr h, Text.cut?_eq_some_iff.mpr h', htrim]

/-- No separator is made behind a line without the space that it ends with. -/
theorem separator_isInfix_of_append {line back : List Char} (hspace : ' ' ∉ back) (h : separator <:+: line ++ back) :
    separator <:+: line := by
  obtain ⟨front, rest, heq⟩ := h
  rcases List.append_eq_append_iff.mp heq with ⟨between, hline, -⟩ | ⟨between, hfront, hback⟩
  · exact ⟨front, between, hline.symm⟩
  · rcases List.eq_nil_or_concat between with rfl | ⟨between, last, rfl⟩
    · exact ⟨front, [], by simpa using hfront⟩
    · -- The separator would reach past the line, so its last character would stand there.
      have hlast : last = ' ' := by
        have hends := congrArg List.getLast? hfront
        simpa [separator] using hends.symm
      exact absurd (by simp [hback, hlast]) hspace

/-- A line is read like the same line with blanks at its end that are no spaces, which could make a separator. -/
theorem alike_append {line back : List Char} (hblank : ∀ c ∈ back, isBlank c = true) (hspace : ' ' ∉ back) :
    Alike line (line ++ back) := by
  by_cases hinfix : separator <:+: line
  · obtain ⟨before, after, hcut⟩ := Text.exists_isLeftmost_iff.mpr hinfix
    have hcut' : IsLeftmost separator (line ++ back) before (after ++ back) := by
      rw [hcut.text_eq, List.append_assoc]
      exact hcut.replace_back (after ++ back)
    exact alike_of_isLeftmost hcut hcut' (Text.trim_append_blanks hblank after)
  · have hnone : ¬separator <:+: line ++ back := mt (separator_isInfix_of_append hspace) hinfix
    intro accepted
    simp only [labelled, Text.cut?_eq_none_iff.mpr hinfix, Text.cut?_eq_none_iff.mpr hnone]

/-- A line is read like the same line with what ends it. -/
theorem alike_append_ending {line ending : List Char} (h : ∀ c ∈ ending, c = '\r' ∨ c = '\n') :
    Alike line (line ++ ending) := by
  refine alike_append (fun c hc => ?_) fun hspace => ?_
  · rcases h c hc with rfl | rfl <;> decide
  · exact absurd (h ' ' hspace) (by decide)

/-- A line is read like the piece of the text that it is cut from. -/
theorem alike_chomp (piece : List Char) : Alike (Text.chomp piece) piece := by
  obtain ⟨ending, hpiece, hending⟩ := Text.exists_chomp_append piece
  have halike : Alike (Text.chomp piece) (Text.chomp piece ++ ending) := alike_append_ending hending
  rwa [← hpiece] at halike

/-- Texts whose first two pieces are read alike are read alike. -/
theorem parse_congr_pieces {text other : List Char}
    (h : List.Forall₂ Alike ((Text.cutAfter '\n' text).take 2) ((Text.cutAfter '\n' other).take 2)) :
    parse other = parse text := by
  apply parse_congr
  unfold Text.lines
  rw [← List.map_take, ← List.map_take, List.forall₂_map_left_iff, List.forall₂_map_right_iff]
  exact h.imp fun piece piece' halike => ((alike_chomp piece).trans halike).trans (alike_chomp piece').symm

/-- A piece of a text is read like the same piece with a carriage return before its line feed. -/
theorem alike_withReturns {text piece : List Char} (h : piece ∈ Text.cutAfter '\n' text) :
    Alike piece (Text.withReturns piece) := by
  obtain ⟨line, hline, rfl | rfl⟩ := Text.of_mem_cutAfter h
  · rw [Text.withReturns_of_not_mem hline]
    exact .refl _
  · rw [Text.withReturns_append_feed hline]
    have hfeed : Alike line (line ++ ['\n']) := alike_append_ending (by simp)
    have hreturn : Alike line (line ++ ['\r', '\n']) := alike_append_ending (by simp)
    exact hfeed.symm.trans hreturn

/-- What stands at the end of a line ends it, whatever the line, and the rest is cut on its own. -/
theorem cutAfter_of_atLineEnd {tail : List Char} (h : AtLineEnd tail) :
    ∃ ending rest, (∀ c ∈ ending, c = '\r' ∨ c = '\n') ∧ ∀ line : List Char, line ≠ [] → '\n' ∉ line →
      Text.cutAfter '\n' (line ++ tail) = (line ++ ending) :: Text.cutAfter '\n' rest := by
  rcases h with rfl | ⟨rest, rfl⟩ | ⟨rest, rfl⟩
  · refine ⟨[], [], by simp, fun line hne hline => ?_⟩
    rw [List.append_nil, Text.cutAfter_of_not_mem hline hne]
    rfl
  · refine ⟨['\n'], rest, by simp, fun line _ hline => ?_⟩
    rw [Text.cutAfter_append_mark, Text.cutAfter_append_singleton hline]
    rfl
  · refine ⟨['\r', '\n'], rest, by simp, fun line _ hline => ?_⟩
    have hline' : '\n' ∉ line ++ ['\r'] := by simpa using hline
    rw [← List.singleton_append, ← List.append_assoc, Text.cutAfter_append_mark, Text.cutAfter_append_singleton hline',
      List.append_assoc]
    rfl

/-- A change to the layout of a text: a carriage return before every line feed, blanks around what stands behind the
first separator of a line, or other text from the third line on. -/
inductive Restyled : List Char → List Char → Prop
  | returns (text : List Char) : Restyled text (Text.withReturns text)
  | padded {ended before value tail left right : List Char} (hended : ended = [] ∨ ∃ front, ended = front ++ ['\n'])
      (hcut : IsLeftmost separator (before ++ separator ++ value) before value)
      (hfeed : '\n' ∉ before ++ separator ++ value) (htail : AtLineEnd tail)
      (hleft : ∀ c ∈ left, isBlank c = true ∧ c ≠ '\n') (hright : ∀ c ∈ right, isBlank c = true ∧ c ≠ '\n') :
      Restyled (ended ++ (before ++ separator ++ value ++ tail))
        (ended ++ (before ++ separator ++ (left ++ value ++ right) ++ tail))
  | later {first second : List Char} (hfirst : '\n' ∉ first) (hsecond : '\n' ∉ second) (rest other : List Char) :
      Restyled (first ++ '\n' :: (second ++ '\n' :: rest)) (first ++ '\n' :: (second ++ '\n' :: other))

/-- A text is read like the same text with one change to its layout. -/
theorem Restyled.parse_eq {text other : List Char} (h : Restyled text other) : parse other = parse text := by
  apply parse_congr_pieces
  cases h with
  | returns =>
    rw [Text.cutAfter_withReturns]
    apply List.forall₂_take
    rw [List.forall₂_map_right_iff, List.forall₂_same]
    exact fun piece hpiece => alike_withReturns hpiece
  | @padded ended before value tail left right hended hcut hfeed htail hleft hright =>
    have hpadded : '\n' ∉ before ++ separator ++ (left ++ value ++ right) := by
      have hleft' : '\n' ∉ left := fun hmem => (hleft '\n' hmem).2 rfl
      have hright' : '\n' ∉ right := fun hmem => (hright '\n' hmem).2 rfl
      simp only [List.mem_append, not_or] at hfeed ⊢
      exact ⟨hfeed.1, ⟨hleft', hfeed.2⟩, hright'⟩
    obtain ⟨ending, rest, hending, hpieces⟩ := cutAfter_of_atLineEnd htail
    rw [Text.cutAfter_append hended, Text.cutAfter_append hended, hpieces _ (by simp [separator]) hfeed,
      hpieces _ (by simp [separator]) hpadded]
    -- The lines are read alike without what ends them.
    have htrim : Text.trim (left ++ value ++ right) = Text.trim value := by
      rw [Text.trim_append_blanks fun c hc => (hright c hc).1, Text.trim_blanks_append fun c hc => (hleft c hc).1]
    have hline := alike_of_isLeftmost hcut (hcut.replace_back (left ++ value ++ right)) htrim
    have hpiece : Alike (before ++ separator ++ value ++ ending)
        (before ++ separator ++ (left ++ value ++ right) ++ ending) :=
      ((alike_append_ending hending).symm.trans hline).trans (alike_append_ending hending)
    apply List.forall₂_take
    exact List.rel_append (Alike.forall₂_refl _) (.cons hpiece (Alike.forall₂_refl _))
  | later hfirst hsecond rest other =>
    simp only [Text.cutAfter_append_mark, Text.cutAfter_append_singleton hfirst,
      Text.cutAfter_append_singleton hsecond]
    exact Alike.forall₂_refl _

/-- However often the layout of a text is changed, and changed back, the text is read to the same key pair, or refused
for the same fault of the same line; so are the files with the one text and the other. -/
theorem parse_eq_of_restyled {text other : String} (h : Relation.EqvGen Restyled text.toList other.toList) :
    parse other.toList = parse text.toList ∧
    ∀ (files files' : FileSystem) (path : Path), files.readText path = .ok text → files'.readText path = .ok other →
      load files' path = load files path := by
  have hparse : parse other.toList = parse text.toList := by
    generalize text.toList = text at h ⊢
    generalize other.toList = other at h ⊢
    induction h with
    | rel _ _ hstep => exact hstep.parse_eq
    | refl _ => rfl
    | symm _ _ _ ih => exact ih.symm
    | trans _ _ _ _ _ ih ih' => exact ih'.trans ih
  refine ⟨hparse, fun files files' path hread hread' => ?_⟩
  rw [load_of_readText hread, load_of_readText hread', hparse]

/-- A file with mixed line ends and no private key: with a carriage return before each line feed, blanks around the
public key and another third line, it is still the second line that is malformed. -/
theorem parse_eq_of_restyled_malformed :
    let path : Path := .ofString "keys.txt"
    let text := "Public Key (Address): a\r\nPrivate Key: \nx"
    let other := "Public Key (Address): \ta\r\u00a0\r\nPrivate Key: \r\n: "
    let holding (text : String) := (Seeding.sampleFiles "").store Seeding.sampleKeyFile (.file text.toUTF8 0o600)
    Relation.EqvGen Restyled text.toList other.toList ∧ load (holding other) path = load (holding text) path ∧
      parse other.toList = .error (.badLine 2 (.emptyValue "Private Key".toList)) := by
  intro path text other holding
  let label := "Public Key (Address)".toList
  let second := "Private Key: \r".toList
  have hcut : IsLeftmost separator (label ++ separator ++ ['a', '\r']) label ['a', '\r'] :=
    Text.cut?_eq_some_iff.mp (by decide +kernel)
  have htail : AtLineEnd ('\r' :: '\n' :: (second ++ ['\n', 'x'])) := .inr (.inr ⟨_, rfl⟩)
  have hblank : ∀ c ∈ ['\t'], isBlank c = true ∧ c ≠ '\n' := List.forall_mem_singleton.mpr (by decide)
  have hblank' : ∀ c ∈ ['\u00a0'], isBlank c = true ∧ c ≠ '\n' := List.forall_mem_singleton.mpr (by decide)
  have hpadded := Restyled.padded (.inl rfl) hcut (by decide +kernel) htail hblank hblank'
  have hfirst : '\n' ∉ label ++ separator ++ ['\t', 'a', '\r', '\u00a0', '\r'] := by decide +kernel
  have hlater := Restyled.later hfirst (by decide : '\n' ∉ second) ['x'] [':', ' ']
  have hmixed : Text.withReturns text.toList =
      [] ++ (label ++ separator ++ ['a', '\r'] ++ '\r' :: '\n' :: (second ++ ['\n', 'x'])) := by decide +kernel
  have hother : other.toList = label ++ separator ++ ['\t', 'a', '\r', '\u00a0', '\r'] ++
      '\n' :: (second ++ ['\n', ':', ' ']) := by decide +kernel
  have h : Relation.EqvGen Restyled text.toList other.toList := by
    rw [hother]
    exact .trans _ _ _ (hmixed ▸ .rel _ _ (.returns text.toList)) (.trans _ _ _ (.rel _ _ hpadded) (.rel _ _ hlater))
  obtain ⟨hparse, hload⟩ := parse_eq_of_restyled h
  have hread : (holding text).readText path = .ok text := eq_ok_of_toOption (by decide +kernel)
  have hread' : (holding other).readText path = .ok other := eq_ok_of_toOption (by decide +kernel)
  exact ⟨h, hload _ _ path hread hread', hparse.trans (by decide +kernel)⟩

end EnvSeed.KeyFile
