import EnvSeed.Proofs.Files.Agreement
import EnvSeed.Proofs.Seeding.Stages

/-!
# Two runs side by side

Two runs of one plan, on file systems where it finds the same template and its output goes the same way, have
the same course if their secrets have one size: both fail with the same failure, or both write as many bytes
and bring a report. So what they may differ in is what is made of the secrets themselves.
-/

namespace EnvSeed

/-- A secret that is given and not empty is the one in use. -/
theorem Secret.choose_given (keys : KeyPair) (keyFile : Path) (overrideVar : String) {secret : String}
    (h : secret ≠ "") : choose keys keyFile overrideVar (some secret) = ⟨secret, .environment overrideVar⟩ := by
  have hempty : secret.isEmpty = false := by simpa using h
  simp [choose, Option.filter, hempty]

/-- Of the value, the size of an expansion depends on the size alone. -/
theorem Expansion.size_congr (template marker : String) {value other : String}
    (h : value.utf8ByteSize = other.utf8ByteSize) :
    (Expansion.of template marker value).content.utf8ByteSize =
      (Expansion.of template marker other).content.utf8ByteSize := by
  unfold Expansion.of characters
  cases Text.cut? marker.toList template.toList with
  | none => rfl
  | some parts => simp only [String.ofList_append, String.ofList_toList, String.utf8ByteSize_append, h]

namespace Seeding

/-- The warnings about the marker depend on how often it occurs alone. -/
theorem markerEvents_congr (plan : Plan) {expansion other : Expansion}
    (h : expansion.occurrences = other.occurrences) : markerEvents plan expansion = markerEvents plan other := by
  obtain ⟨content, occurrences⟩ := expansion
  obtain ⟨content', occurrences'⟩ := other
  have hcount : occurrences = occurrences' := h
  rw [hcount]
  rfl

/-- Two file systems in which a plan finds the same template, and writing its output goes the same way. -/
structure SameGround (plan : Plan) (files other : FileSystem) : Prop where
  template : readTemplate other plan.template = readTemplate files plan.template
  write : ∀ data, (other.tryWrite plan.output plan.writeMode data).result =
    (files.tryWrite plan.output plan.writeMode data).result

/-- A file system is the same ground as itself. -/
theorem SameGround.refl (plan : Plan) (files : FileSystem) : SameGround plan files files :=
  ⟨rfl, fun _ => rfl⟩

/-- File systems that differ in one file are the same ground for a plan that names it neither as its template
nor as its output. -/
theorem sameGround_of_agreeOutside {plan : Plan} {place : Location} {files other : FileSystem}
    (h : files.AgreeOutside place other) (htemplate : files.resolve plan.template ≠ .ok place)
    (houtput : files.resolve plan.output ≠ .ok place) : SameGround plan files other :=
  ⟨readTemplate_congr (h.readText_eq htemplate), fun data => (h.tryWrite houtput plan.writeMode data).1⟩

/-- The check of an output reads nothing but the output. -/
theorem check_eq_of_agreeOutside {environment : Environment} {plan : Plan} {place : Location}
    {files other : FileSystem} (h : files.AgreeOutside place other) (houtput : files.resolve plan.output ≠ .ok place) :
    check environment other plan = check environment files plan := by
  simp only [check, Dotenv.inspect, h.open?_eq houtput]

/-- Another key file in the sample is the only difference. -/
theorem agreeOutside_sampleKeyFile (template text : String) (permissions : Nat) :
    (sampleFiles template).AgreeOutside sampleKeyFile
      ((sampleFiles template).store sampleKeyFile (.file text.toUTF8 permissions)) := by
  have hnode : (sampleFiles template).node? sampleKeyFile =
      some (.file "Public Key (Address): a\nPrivate Key: b\n".toUTF8 0o644) := by
    unfold sampleFiles
    rw [FileSystem.node?_store_of_ne _ (by decide)]
    exact FileSystem.node?_store_self _ (by decide) _
  exact FileSystem.agreeOutside_store hnode _ permissions

/-- Secrets of one size in one template give data of one size. -/
theorem Draft.size_data_congr (plan : Plan) {draft other : Draft} (htemplate : other.template = draft.template)
    (hsize : other.secret.value.utf8ByteSize = draft.secret.value.utf8ByteSize) :
    (other.data plan).size = (draft.data plan).size := by
  have hcontent := Expansion.size_congr other.template plan.marker hsize
  unfold Draft.data Draft.expansion
  rw [← htemplate]
  exact hcontent

/-- Secrets of one size in one template make the write go the same way. -/
theorem Draft.write_congr (files : FileSystem) (plan : Plan) {draft other : Draft}
    (htemplate : other.template = draft.template)
    (hsize : other.secret.value.utf8ByteSize = draft.secret.value.utf8ByteSize) :
    (files.tryWrite plan.output plan.writeMode (other.data plan)).result =
      (files.tryWrite plan.output plan.writeMode (draft.data plan)).result := by
  apply files.tryWrite_result_congr
  simp only [ByteArray.isEmpty, Draft.size_data_congr plan htemplate hsize]

section Course

variable (environment environment' : Environment) (plan : Plan) (files other : FileSystem) (keys keys' : KeyPair)
  (secret secret' : Secret)

/-- The two ways of two runs that both have a key pair and a secret: they fail alike, leaving the files as they
were, or both write their data and bring a report. Up to the check they tell the same but for the source; the
check is made by each in its own environment. -/
inductive PairedCourse : Seeding → Seeding → Prop
  | failed (failure : Failure) (events : List Event) : PairedCourse
      ⟨.error failure, keysLoaded plan :: secretResolved secret.source :: events, files⟩
      ⟨.error failure, keysLoaded plan :: secretResolved secret'.source :: events, other⟩
  | written {template : String} {bytes : Nat} {events : List Event} {after after' : FileSystem}
      (hwrite : files.tryWrite plan.output plan.writeMode (Draft.data plan ⟨keys, template, secret⟩) = ⟨.ok (), after⟩)
      (hwrite' : other.tryWrite plan.output plan.writeMode (Draft.data plan ⟨keys', template, secret'⟩) =
        ⟨.ok (), after'⟩) : PairedCourse
      ⟨.ok (report plan keys secret (Draft.expansion plan ⟨keys, template, secret⟩) bytes
          (check environment after plan).1),
        keysLoaded plan :: secretResolved secret.source ::
          (events ++ outputWritten plan bytes :: (check environment after plan).2),
        after⟩
      ⟨.ok (report plan keys' secret' (Draft.expansion plan ⟨keys', template, secret'⟩) bytes
          (check environment' after' plan).1),
        keysLoaded plan :: secretResolved secret'.source ::
          (events ++ outputWritten plan bytes :: (check environment' after' plan).2),
        after'⟩

variable {environment environment' plan files other keys keys' secret secret'}

/-- Runs on the same ground whose secrets have one size go the same of the two ways. -/
theorem pairedCourse_run {override override' : Option String} (hground : SameGround plan files other)
    (hkeys : KeyFile.load files plan.keyFile = .ok keys) (hkeys' : KeyFile.load other plan.keyFile = .ok keys')
    (hsecret : Secret.choose keys plan.keyFile plan.overrideVar override = secret)
    (hsecret' : Secret.choose keys' plan.keyFile plan.overrideVar override' = secret')
    (hsize : secret'.value.utf8ByteSize = secret.value.utf8ByteSize) :
    PairedCourse environment environment' plan files other keys keys' secret secret'
      (run environment files plan override) (run environment' other plan override') := by
  cases htemplate : readTemplate files plan.template with
  | error failure =>
    have htemplate' := hground.template.trans htemplate
    have hrun : run environment files plan override =
        ⟨.error failure, [keysLoaded plan, secretResolved secret.source], files⟩ := by
      simp only [run, hkeys, htemplate, hsecret]
    have hrun' : run environment' other plan override' =
        ⟨.error failure, [keysLoaded plan, secretResolved secret'.source], other⟩ := by
      simp only [run, hkeys', htemplate', hsecret']
    rw [hrun, hrun']
    exact .failed failure []
  | ok template =>
    have htemplate' := hground.template.trans htemplate
    let draft : Draft := ⟨keys, template, secret⟩
    let draft' : Draft := ⟨keys', template, secret'⟩
    have hread : draft.ReadFrom files plan override := ⟨hkeys, htemplate, hsecret⟩
    have hread' : draft'.ReadFrom other plan override' := ⟨hkeys', htemplate', hsecret'⟩
    have hdata : (draft'.data plan).size = (draft.data plan).size := Draft.size_data_congr plan rfl hsize
    have hmarker : markerEvents plan (draft'.expansion plan) = markerEvents plan (draft.expansion plan) :=
      markerEvents_congr plan rfl
    have hresult : (other.tryWrite plan.output plan.writeMode (draft'.data plan)).result =
        (files.tryWrite plan.output plan.writeMode (draft.data plan)).result :=
      (hground.write _).trans (Draft.write_congr files plan rfl hsize)
    cases hwrite : (files.tryWrite plan.output plan.writeMode (draft.data plan)).result with
    | error fault =>
      rw [run_of_refused hread (FileSystem.tryWrite_of_refused hwrite),
        run_of_refused hread' (FileSystem.tryWrite_of_refused (hresult.trans hwrite)), Draft.events, Draft.events,
        hmarker]
      exact .failed (.ofWrite plan.output fault) (markerEvents plan (draft.expansion plan))
    | ok done =>
      have haccepted := FileSystem.tryWrite_of_accepted hwrite
      have haccepted' := FileSystem.tryWrite_of_accepted (hresult.trans hwrite)
      rw [run_of_written hread haccepted, run_of_written hread' haccepted', Draft.events, Draft.events, hmarker,
        hdata]
      exact .written haccepted haccepted'

end Course

end Seeding

end EnvSeed
