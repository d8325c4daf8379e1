import EnvSeed.Proofs.Seeding.Expanding
import EnvSeed.Proofs.Seeding.KeyValues
import EnvSeed.Proofs.Seeding.Stages
import EnvSeed.Proofs.Text.Pieces

/-!
# A key stays on its line

The values of a key file have no line feed in them. So a template that is expanded with one of them keeps its lines:
their number, and each of them but the one in which the marker ends, also where the marker itself goes over lines.
-/

namespace EnvSeed

namespace Expansion

open Text (IsLeftmost)

/-- The number of the line of a template in which its leftmost marker ends, if it has the marker. -/
def markedLine? (marker template : List Char) : Option Nat :=
  (Text.cut? marker template).map fun (before, _) => (before ++ marker).count '\n'

/-- A text and another with as many line feeds and, between these, the same in every place but at most one. -/
structure SameLines (changed : Option Nat) (text other : List Char) : Prop where
  feeds : text.count '\n' = other.count '\n'
  line : ∀ number, changed ≠ some number → (text.splitOn '\n')[number]? = (other.splitOn '\n')[number]?

/-- The line of the leftmost marker is the one after the line feeds up to its end. -/
theorem markedLine?_of_isLeftmost {marker template before after : List Char}
    (h : IsLeftmost marker template before after) :
    markedLine? marker template = some ((before ++ marker).count '\n') := by
  rw [markedLine?, Text.cut?_eq_some_iff.mpr h]
  rfl

/-- Expanding a template with a value without line feeds keeps its lines, but for the one in which the marker ends. -/
theorem sameLines_content (template marker : String) {value : String} (h : '\n' ∉ value.toList) :
    SameLines (markedLine? marker.toList template.toList) (Expansion.of template marker value).content.toList
      template.toList := by
  by_cases hmarked : marker.toList <:+: template.toList
  · obtain ⟨before, after, hleft⟩ := Text.exists_isLeftmost_iff.mpr hmarked
    have hfeeds : value.toList.count '\n' = 0 := List.count_eq_zero.mpr h
    rw [content_of_isLeftmost hleft, String.toList_ofList, markedLine?_of_isLeftmost hleft, hleft.text_eq]
    constructor
    · simp only [List.count_append, hfeeds, Nat.add_zero]
    · intro number hnumber
      have hplace : number ≠ (before ++ marker.toList).count '\n' := fun heq => hnumber (congrArg some heq.symm)
      exact Text.getElem?_splitOn_insert h after hplace
  · rw [(of_unmarked hmarked value).2]
    exact ⟨rfl, fun _ _ => rfl⟩

end Expansion

/-- A secret from the key file is the private key. -/
theorem Secret.value_of_keyFile {keys : KeyPair} {keyFile path : Path} {overrideVar : String} {given : Option String}
    (h : (choose keys keyFile overrideVar given).source = .keyFile path) :
    (choose keys keyFile overrideVar given).value = keys.privateKey := by
  unfold choose at h ⊢
  split at h
  · cases h
  · rfl

namespace Seeding

open Expansion (SameLines markedLine?)

/-- Every key file that can be read is read to two texts of one line, not empty and with no blank at their ends. So
what a run writes with the private key of its key file, the expansion of its template, has the lines of the template:
as many of them, and each the same but at most the one in which the leftmost marker ends. -/
theorem sameLines_of_run :
    (∀ text keys, KeyFile.parse text = .ok keys →
      KeyFile.IsValue keys.verificationKey.toList ∧ KeyFile.IsValue keys.privateKey.toList) ∧
    ∀ environment files plan override report path, (run environment files plan override).result = .ok report →
      report.source = .keyFile path →
      ∃ keys template, KeyFile.load files plan.keyFile = .ok keys ∧ files.readText plan.template = .ok template ∧
        let content := (Expansion.of template plan.marker keys.privateKey).content
        let after := (run environment files plan override).files
        SameLines (markedLine? plan.marker.toList template.toList) content.toList template.toList ∧
        files.tryWrite plan.output plan.writeMode content.toUTF8 = ⟨.ok (), after⟩ ∧
        ∀ place, files.writeTarget plan.output = .ok place → files.IsRegular place →
          after.contentAt place = plan.writeMode.apply (files.contentAt place) content.toUTF8 := by
  refine ⟨fun text keys => KeyFile.isValue_of_parse, fun environment files plan override report path h hsource => ?_⟩
  obtain ⟨draft, hread, hwrite, rfl⟩ := written_of_ok h
  have hvalue : draft.secret.value = draft.keys.privateKey := by
    have hchosen : (Secret.choose draft.keys plan.keyFile plan.overrideVar override).source = .keyFile path := by
      rw [hread.secret]
      exact hsource
    rw [← hread.secret]
    exact Secret.value_of_keyFile hchosen
  have hfeed : '\n' ∉ draft.keys.privateKey.toList := (KeyFile.isValue_of_load hread.keys).2.feed_not_mem
  rw [Draft.data, Draft.expansion, hvalue] at hwrite
  refine ⟨draft.keys, draft.template, hread.keys, hread.readText_template, ?_, hwrite, ?_⟩
  · exact Expansion.sameLines_content draft.template plan.marker hfeed
  · intro place htarget hregular
    exact FileSystem.contentAt_of_file (FileSystem.node?_of_tryWrite hwrite htarget hregular)

/-- A marker that begins in one line and ends in the next, twice in its template. -/
theorem sameLines_of_run_feed :
    let plan : Plan := { marker := "=\n# " }
    let files := sampleFiles "A=1\nKEY=\n# x\nKEY=\n# y\n"
    let written := "A=1\nKEY=\n# bx\nKEY=\n# y\n"
    (run ⟨[], none⟩ files plan none).files.contentAt sampleOutput = written.toUTF8 ∧
      SameLines (some 2) written.toList "A=1\nKEY=\n# x\nKEY=\n# y\n".toList := by
  intro plan files written
  have hresult : (run ⟨[], none⟩ files plan none).result.toOption.map Report.source =
      some (.keyFile (.ofString "keys.txt")) := by decide +kernel
  obtain ⟨report, hreport, hsource⟩ := Option.map_eq_some_iff.mp hresult
  have hregular : files.IsRegular sampleOutput := .inl (by decide +kernel)
  have htarget : files.writeTarget plan.output = .ok sampleOutput := eq_ok_of_toOption (by decide +kernel)
  obtain ⟨keys, template, hkeys, htemplate, hlines, -, hcontent⟩ :=
    sameLines_of_run.2 _ _ _ _ report _ (eq_ok_of_toOption hreport) hsource
  have hload : KeyFile.load files plan.keyFile = .ok ⟨"a", "b"⟩ := eq_ok_of_toOption (by decide +kernel)
  have htext : files.readText plan.template = .ok "A=1\nKEY=\n# x\nKEY=\n# y\n" :=
    eq_ok_of_toOption (by decide +kernel)
  obtain rfl : ⟨"a", "b"⟩ = keys := Except.ok.inj (hload.symm.trans hkeys)
  obtain rfl : "A=1\nKEY=\n# x\nKEY=\n# y\n" = template := Except.ok.inj (htext.symm.trans htemplate)
  have hwritten : (Expansion.of "A=1\nKEY=\n# x\nKEY=\n# y\n" plan.marker "b").content = written := by decide +kernel
  have hline : markedLine? plan.marker.toList "A=1\nKEY=\n# x\nKEY=\n# y\n".toList = some 2 := by decide +kernel
  rw [hwritten] at hcontent hlines
  rw [hline] at hlines
  refine ⟨(hcontent sampleOutput htarget hregular).trans ?_, hlines⟩
  decide +kernel

end Seeding

end EnvSeed
