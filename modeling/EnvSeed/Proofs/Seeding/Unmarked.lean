import EnvSeed.Proofs.Plan.Sources
import EnvSeed.Proofs.Seeding.Expanding
import EnvSeed.Proofs.Seeding.Stages
import EnvSeed.Proofs.Text.Bytes

/-!
# A template without the marker

A template that does not contain the marker has no place for a secret, so it is written as it is, and the files
come out the same whatever the secret. No plan that is loaded has the empty marker, which every template contains.
-/

namespace EnvSeed

/-- What reads as a text are the bytes of that text. -/
theorem FileSystem.read_of_readText {files : FileSystem} {path : Path} {text : String}
    (h : files.readText path = .ok text) : files.read path = .ok text.toUTF8 := by
  unfold readText at h
  cases hread : files.read path with
  | error fault => simp [hread] at h
  | ok bytes =>
    simp only [hread] at h
    split at h
    · cases h
    · next hbytes => rw [Text.eq_toUTF8_of_fromUTF8? hbytes, Except.ok.inj h]

namespace Seeding

/-- The template of a plan does not contain its marker, if it can be read. -/
def Unmarked (files : FileSystem) (plan : Plan) : Prop :=
  ∀ template, files.readText plan.template = .ok template → ¬plan.marker.toList <:+: template.toList

/-- A draft of an unmarked template is the template, and has not found the marker. -/
theorem Draft.of_unmarked {files : FileSystem} {plan : Plan} {override : Option String} {draft : Draft}
    (hunmarked : Unmarked files plan) (hread : draft.ReadFrom files plan override) :
    (draft.expansion plan).markerFound = false ∧ draft.data plan = draft.template.toUTF8 := by
  have hexpansion := Expansion.of_unmarked (hunmarked draft.template hread.readText_template) draft.secret.value
  exact ⟨hexpansion.1, congrArg String.toUTF8 hexpansion.2⟩

/-- With an unmarked template all runs of a plan fail alike, or all of them write the template as it is and bring
reports that differ in the secret and in the check of the output alone. -/
theorem run_of_unmarked {files : FileSystem} {plan : Plan} (hunmarked : Unmarked files plan) :
    (∃ failure, ∀ environment override, let seeding := run environment files plan override
      seeding.result = .error failure ∧ seeding.files = files) ∨
    ∃ keys template after, files.readText plan.template = .ok template ∧
      files.tryWrite plan.output plan.writeMode template.toUTF8 = ⟨.ok (), after⟩ ∧
      ∀ environment override, ∃ (secret : Secret) (expansion : Expansion), expansion.markerFound = false ∧
        let seeding := run environment files plan override
        seeding.result = .ok (report plan keys secret expansion template.toUTF8.size (check environment after plan).1) ∧
          seeding.files = after := by
  cases hkeys : KeyFile.load files plan.keyFile with
  | error failure => exact .inl ⟨failure, fun environment override => by simp [run, hkeys]⟩
  | ok keys =>
    cases htemplate : readTemplate files plan.template with
    | error failure => exact .inl ⟨failure, fun environment override => by simp [run, hkeys, htemplate]⟩
    | ok template =>
      let draft (override : Option String) : Draft :=
        ⟨keys, template, Secret.choose keys plan.keyFile plan.overrideVar override⟩
      have hread (override : Option String) : (draft override).ReadFrom files plan override := ⟨hkeys, htemplate, rfl⟩
      have hdraft (override : Option String) := Draft.of_unmarked hunmarked (hread override)
      -- Whatever the secret, it is the template that goes to the write.
      cases hwrite : (files.tryWrite plan.output plan.writeMode template.toUTF8).result with
      | error fault =>
        have hrefused := FileSystem.tryWrite_of_refused hwrite
        refine .inl ⟨.ofWrite plan.output fault, fun environment override => ?_⟩
        rw [← (hdraft override).2] at hrefused
        rw [run_of_refused (hread override) hrefused]
        exact ⟨rfl, rfl⟩
      | ok written =>
        have haccepted := FileSystem.tryWrite_of_accepted hwrite
        refine .inr ⟨keys, template, _, (hread none).readText_template, haccepted, fun environment override => ?_⟩
        refine ⟨(draft override).secret, (draft override).expansion plan, (hdraft override).1, ?_⟩
        rw [run_of_written (hread override) ((hdraft override).2 ▸ haccepted), (hdraft override).2]
        exact ⟨rfl, rfl⟩

/-- A plan that is loaded has a marker that is not empty. With a template that does not contain it, runs with any two
values of the override variable, in any environments, fail alike or both bring a report, and leave the same files.
The report says that the marker was not found and gives the size of the template, whose bytes a regular output has
in place of its content or at its end; the report of the other run differs from it in the secret and in the check of
the output alone. Where the keys and the template can be read and the output is regular, there is a report. -/
theorem files_of_unmarked {environment : Environment} {files ground : FileSystem} {path : Option Path}
    {overrides : Overrides} {plan : Plan} (hload : Plan.load environment files path overrides = .ok plan)
    (hunmarked : Unmarked ground plan) (here there : Environment) (first second : Option String) :
    let one := run here ground plan first
    let two := run there ground plan second
    plan.marker ≠ "" ∧ one.files = two.files ∧
    (∀ failure, one.result = .error failure ↔ two.result = .error failure) ∧
    (∀ report, one.result = .ok report → report.markerFound = false ∧
      (∃ bytes, ground.read plan.template = .ok bytes ∧ report.bytesWritten = bytes.size ∧
        ∀ place, ground.writeTarget plan.output = .ok place → ground.IsRegular place →
          one.files.contentAt place = plan.writeMode.apply (ground.contentAt place) bytes) ∧
      ∃ secret : Secret, two.result = .ok { report with
        source := secret.source, fingerprint := Secret.fingerprint secret.value,
        outputCheck := (check there one.files plan).1 }) ∧
    ∀ keys text place, KeyFile.load ground plan.keyFile = .ok keys → ground.readText plan.template = .ok text →
      ground.writeTarget plan.output = .ok place → ground.IsRegular place → one.result.isOk = true := by
  intro one two
  have hok keys text place (hkeys : KeyFile.load ground plan.keyFile = .ok keys)
      (htext : ground.readText plan.template = .ok text) (htarget : ground.writeTarget plan.output = .ok place)
      (hregular : ground.IsRegular place) : one.result.isOk = true := by
    have hread : Draft.ReadFrom ground plan first
        ⟨keys, text, Secret.choose keys plan.keyFile plan.overrideVar first⟩ :=
      ⟨hkeys, readTemplate_eq_ok_iff.mpr htext, rfl⟩
    exact isOk_of_regular hread htarget hregular
  refine ⟨Plan.marker_ne_of_load hload, ?_⟩
  obtain ⟨failure, hfail⟩ | ⟨keys, template, after, htemplate, hwrite, hcopy⟩ := run_of_unmarked hunmarked
  · obtain ⟨hone, hfiles⟩ : one.result = .error failure ∧ one.files = ground := hfail here first
    obtain ⟨htwo, hfiles'⟩ : two.result = .error failure ∧ two.files = ground := hfail there second
    refine ⟨hfiles.trans hfiles'.symm, fun failure => by rw [hone, htwo], fun report hreport => ?_, hok⟩
    cases hone.symm.trans hreport
  · obtain ⟨secret, expansion, hexpansion, hone, hfiles⟩ := hcopy here first
    obtain ⟨secret', expansion', hexpansion', htwo, hfiles'⟩ := hcopy there second
    refine ⟨hfiles.trans hfiles'.symm, fun failure => iff_of_false ?_ ?_, fun report hreport => ?_, hok⟩
    · intro herror
      cases hone.symm.trans herror
    · intro herror
      cases htwo.symm.trans herror
    obtain rfl := Except.ok.inj (hone.symm.trans hreport)
    refine ⟨hexpansion, ⟨template.toUTF8, FileSystem.read_of_readText htemplate, rfl, fun place htarget hregular => ?_⟩,
      secret', ?_⟩
    · rw [hfiles, FileSystem.contentAt_of_file (FileSystem.node?_of_tryWrite hwrite htarget hregular)]
    · rw [htwo, hfiles]
      simp only [report, hexpansion, hexpansion']

/-- An empty value and one that is taken, with a template that has only a part of the marker, appended behind an
entry that was there before. -/
theorem files_of_unmarked_appended :
    let files := (sampleFiles "PRIVATE_KEY\n").store sampleOutput (.file "X=y\n".toUTF8 0o600)
    let one := run ⟨[], none⟩ files {} (some "")
    let two := run (.ofList [("A", "b".toUTF8)]) files {} (some "xy")
    one.result.isOk = true ∧ one.files = two.files ∧
      one.files.contentAt sampleOutput = "X=y\nPRIVATE_KEY\n".toUTF8 := by
  intro files one two
  have hload : Plan.load ⟨[], none⟩ files none {} = .ok {} := eq_ok_of_toOption (by decide +kernel)
  have htext : files.readText (.ofString ".env.sample") = .ok "PRIVATE_KEY\n" := eq_ok_of_toOption (by decide +kernel)
  have hkeys : KeyFile.load files (.ofString "keys.txt") = .ok ⟨"a", "b"⟩ := eq_ok_of_toOption (by decide +kernel)
  have htarget : files.writeTarget (.ofString ".env") = .ok sampleOutput := eq_ok_of_toOption (by decide +kernel)
  have hregular : files.IsRegular sampleOutput := .inr ⟨"X=y\n".toUTF8, 0o600, by decide +kernel⟩
  have hunmarked : Unmarked files {} := by
    intro template htemplate
    obtain rfl := Except.ok.inj (htext.symm.trans htemplate)
    decide +kernel
  obtain ⟨-, hfiles, -, hreport, hok⟩ :=
    files_of_unmarked hload hunmarked ⟨[], none⟩ (.ofList [("A", "b".toUTF8)]) (some "") (some "xy")
  have hone : one.result.isOk = true := hok _ _ _ hkeys htext htarget hregular
  refine ⟨hone, hfiles, ?_⟩
  cases hresult : one.result with
  | error failure =>
    rw [hresult] at hone
    cases hone
  | ok report =>
    obtain ⟨-, ⟨bytes, hread, -, hcontent⟩, -⟩ := hreport report hresult
    obtain rfl := Except.ok.inj ((FileSystem.read_of_readText htext).symm.trans hread)
    rw [hcontent sampleOutput htarget hregular]
    decide +kernel

end Seeding

end EnvSeed
