import EnvSeed.Proofs.Command.Stages
import EnvSeed.Proofs.Files.Footprint
import EnvSeed.Proofs.Seeding.Stages

/-!
# The first failure decides

An invocation stops at the first of its stages that fails, and has then looked at no more files than the stages up
to that one look at. So whatever else there may be on the disk, it ends the same way: it prints nothing but what
was told up to there and one line about the failure, and leaves the files as they are.
-/

namespace EnvSeed

/-- A plan is loaded from nothing but the configuration file that is named, or else the default one. -/
theorem Plan.load_congr {files other : FileSystem} {path : Option Path}
    (h : other.open? (path.getD defaultFile) = files.open? (path.getD defaultFile)) (environment : Environment)
    (overrides : Overrides) : load environment other path overrides = load environment files path overrides := by
  cases path with
  | none =>
    have hdefault : other.open? defaultFile = files.open? defaultFile := h
    have hreaches : other.reaches defaultFile = files.reaches defaultFile := by
      simp only [FileSystem.reaches, hdefault]
    have hsettings : readSettings other defaultFile = readSettings files defaultFile := by
      simp only [readSettings, FileSystem.readText, FileSystem.read, hdefault]
    simp only [load, chosenFile, hreaches]
    cases files.reaches defaultFile with
    | false => rfl
    | true => simp only [fromFile, if_true, Option.none_or, hsettings]
  | some named =>
    have hnamed : other.open? named = files.open? named := h
    simp only [load, chosenFile, Option.some_or, fromFile, readSettings, FileSystem.readText, FileSystem.read, hnamed]

namespace Seeding

section

variable (files : FileSystem) (plan : Plan) (override : Option String)

/-- The first failure of a run, with the paths that were followed up to it and the events that were told. -/
inductive Stop : List Path → List Event → Failure → Prop
  | keyFile {failure : Failure} (hkeys : KeyFile.load files plan.keyFile = .error failure) :
      Stop [plan.keyFile] [] failure
  | template {keys : KeyPair} {failure : Failure} (hkeys : KeyFile.load files plan.keyFile = .ok keys)
      (htemplate : readTemplate files plan.template = .error failure) :
      Stop [plan.keyFile, plan.template] [keysLoaded plan,
        secretResolved (Secret.choose keys plan.keyFile plan.overrideVar override).source] failure
  | output {draft : Draft} {fault : WriteFault} (hread : draft.ReadFrom files plan override)
      (hwrite : (files.tryWrite plan.output plan.writeMode (draft.data plan)).result = .error fault) :
      Stop [plan.keyFile, plan.template, plan.output] (draft.events plan) (.ofWrite plan.output fault)

end

variable {environment : Environment} {files other : FileSystem} {plan : Plan} {override : Option String}
  {paths : List Path} {events : List Event} {failure : Failure}

/-- A run stops the same way wherever the paths up to there look at the same, and leaves the files as they are. -/
theorem run_of_stop (hstop : Stop files plan override paths events failure) (h : files.AgreeAlong paths other) :
    run environment other plan override = ⟨.error failure, events, other⟩ := by
  cases hstop with
  | keyFile hkeys =>
    have hkeys' := (KeyFile.load_congr (h.readText_eq (by simp))).trans hkeys
    simp only [run, hkeys']
  | template hkeys htemplate =>
    have hkeys' := (KeyFile.load_congr (h.readText_eq (by simp))).trans hkeys
    have htemplate' := (readTemplate_congr (h.readText_eq (by simp))).trans htemplate
    simp only [run, hkeys', htemplate']
  | output hread hwrite =>
    have hread' := hread.congr fun path hpath => h.readText_eq (List.mem_append_left [plan.output] hpath)
    have hwrite' := (h.tryWrite_result_eq (by simp) plan.writeMode _).trans hwrite
    exact run_of_refused hread' (FileSystem.tryWrite_of_refused hwrite')

/-- A run that fails stops somewhere. -/
theorem stop_of_error (h : (run environment files plan override).result = .error failure) :
    ∃ paths events, Stop files plan override paths events failure := by
  have hcourse := course_run environment files plan override
  generalize run environment files plan override = seeding at h hcourse
  cases hcourse with
  | noKeys hkeys =>
    obtain rfl := Except.error.inj h
    exact ⟨_, _, .keyFile hkeys⟩
  | noTemplate hkeys htemplate =>
    obtain rfl := Except.error.inj h
    exact ⟨_, _, .template hkeys htemplate⟩
  | refused hread hwrite =>
    obtain rfl := Except.error.inj h
    exact ⟨_, _, .output hread (congrArg WriteAttempt.result hwrite)⟩
  | written => cases h

end Seeding

namespace Command

section

variable (environment : Environment) (files : FileSystem) (arguments : Arguments)

/-- The configuration file that arguments name, or else the default one. -/
def settingsFile (arguments : Arguments) : Path :=
  arguments.config.getD Plan.defaultFile

/-- The first failure of an invocation, with the paths that were followed up to it and the log. There is no log
before the level is known. -/
inductive Stop : List Path → String → Failure → Prop
  | plan {failure : Failure}
      (hplan : Plan.load environment files arguments.config arguments.overrides = .error failure) :
      Stop [settingsFile arguments] "" failure
  | level {plan : Plan} {failure : Failure}
      (hplan : Plan.load environment files arguments.config arguments.overrides = .ok plan)
      (hlevel : LevelFilter.parse plan.logLevel = .error failure) : Stop [settingsFile arguments] "" failure
  | override {plan : Plan} {filter : LevelFilter} {failure : Failure}
      (hplan : Plan.load environment files arguments.config arguments.overrides = .ok plan)
      (hlevel : LevelFilter.parse plan.logLevel = .ok filter)
      (hgiven : Secret.given environment plan.overrideVar = .error failure) :
      Stop [settingsFile arguments] (Event.log filter [configLoaded plan]) failure
  | seeding {plan : Plan} {filter : LevelFilter} {override : Option String} {paths : List Path}
      {events : List Event} {failure : Failure}
      (hplan : Plan.load environment files arguments.config arguments.overrides = .ok plan)
      (hlevel : LevelFilter.parse plan.logLevel = .ok filter)
      (hgiven : Secret.given environment plan.overrideVar = .ok override)
      (hstop : Seeding.Stop files plan override paths events failure) :
      Stop (settingsFile arguments :: paths) (Event.log filter (configLoaded plan :: events)) failure

end

variable {environment : Environment} {files other : FileSystem} {words : List ByteArray} {arguments : Arguments}

/-- An invocation stops the same way wherever the paths up to there look at the same, and leaves the files as they
are. -/
theorem run_of_stop {paths : List Path} {log : String} {failure : Failure}
    (hwords : Arguments.parse words = .ok arguments)
    (hstop : Stop environment files arguments paths log failure) (h : files.AgreeAlong paths other)
    (accepts : Bool) : run environment other accepts words = failed other log failure := by
  have hload (hmem : settingsFile arguments ∈ paths) :
      Plan.load environment other arguments.config arguments.overrides =
        Plan.load environment files arguments.config arguments.overrides :=
    Plan.load_congr (h.open?_eq hmem) environment arguments.overrides
  cases hstop with
  | plan hplan => simp only [run, hwords, execute, hload List.mem_cons_self, hplan]
  | level hplan hlevel => simp only [run, hwords, execute, hload List.mem_cons_self, hplan, hlevel]
  | override hplan hlevel hgiven =>
    simp only [run, hwords, execute, hload List.mem_cons_self, hplan, hlevel, hgiven]
  | seeding hplan hlevel hgiven hstop =>
    rw [run_of_given accepts hwords ((hload List.mem_cons_self).trans hplan) hlevel hgiven,
      Seeding.run_of_stop hstop (h.mono (List.subset_cons_self _ _))]
    rfl

/-- Arguments that are acted on go through all stages, or stop at one. -/
theorem seeded_or_stop (environment : Environment) (files : FileSystem) (arguments : Arguments) :
    (∃ plan filter override report,
      Plan.load environment files arguments.config arguments.overrides = .ok plan ∧
      LevelFilter.parse plan.logLevel = .ok filter ∧ Secret.given environment plan.overrideVar = .ok override ∧
      (Seeding.run environment files plan override).result = .ok report) ∨
    ∃ paths log failure, Stop environment files arguments paths log failure := by
  cases hplan : Plan.load environment files arguments.config arguments.overrides with
  | error failure => exact .inr ⟨_, _, failure, .plan hplan⟩
  | ok plan =>
    cases hlevel : LevelFilter.parse plan.logLevel with
    | error failure => exact .inr ⟨_, _, failure, .level hplan hlevel⟩
    | ok filter =>
      cases hgiven : Secret.given environment plan.overrideVar with
      | error failure => exact .inr ⟨_, _, failure, .override hplan hlevel hgiven⟩
      | ok override =>
        cases hresult : (Seeding.run environment files plan override).result with
        | error failure =>
          obtain ⟨paths, events, hstop⟩ := Seeding.stop_of_error hresult
          exact .inr ⟨_, _, failure, .seeding hplan hlevel hgiven hstop⟩
        | ok report => exact .inl ⟨plan, filter, override, report, rfl, hlevel, hgiven, hresult⟩

/-- The first failure decides. Arguments that are acted on either bring all stages to their end: then the report is
printed, and beside it there are only the lines of the log. Or a stage fails: then nothing is printed, the log up
to there is followed by the one line about the failure, and the files stay as they are. Both what is told and the
exit code are then the same for all files that hold the same along the paths that were followed up to there. -/
theorem outcome_of_first_failure (environment : Environment) (files : FileSystem)
    (hwords : Arguments.parse words = .ok arguments) :
    ((∃ plan filter override report,
        Plan.load environment files arguments.config arguments.overrides = .ok plan ∧
        LevelFilter.parse plan.logLevel = .ok filter ∧ Secret.given environment plan.overrideVar = .ok override ∧
        let seeding := Seeding.run environment files plan override
        seeding.result = .ok report ∧ run environment files true words =
          ⟨0, report.render, Event.log filter (configLoaded plan :: seeding.events), seeding.files⟩) ∨
      ∃ paths log failure, Stop environment files arguments paths log failure) ∧
    ∀ paths log failure, Stop environment files arguments paths log failure →
      ∀ other, files.AgreeAlong paths other →
        run environment other true words = ⟨1, "", log ++ s!"error: {failure.message}\n", other⟩ := by
  refine ⟨?_, fun paths log failure hstop other h => run_of_stop hwords hstop h true⟩
  obtain ⟨plan, filter, override, report, hplan, hlevel, hgiven, hresult⟩ | hstop :=
    seeded_or_stop environment files arguments
  · refine .inl ⟨plan, filter, override, report, hplan, hlevel, hgiven, hresult, ?_⟩
    rw [run_of_given true hwords hplan hlevel hgiven]
    simp only [finish, hresult, if_true]
  · exact .inr hstop

/-- Whether two results are the same can be decided where it can of failures and of values. -/
instance decidableEqResult {ε α : Type} [DecidableEq ε] [DecidableEq α] : DecidableEq (Except ε α)
  | .error fault, .error other => decidable_of_iff (fault = other) ⟨congrArg Except.error, Except.error.inj⟩
  | .ok value, .ok other => decidable_of_iff (value = other) ⟨congrArg Except.ok, Except.ok.inj⟩
  | .error _, .ok _ => isFalse nofun
  | .ok _, .error _ => isFalse nofun

/-- Without a key file it makes no difference that a template and an output appear, of which the template is no
text. -/
theorem outcome_of_first_failure_no_keys :
    let files := FileSystem.fresh
    let other := (files.store ["tmp".toUTF8, "work".toUTF8, ".env.sample".toUTF8] (.file ⟨#[0xff]⟩ 0o644)).store
      Seeding.sampleOutput .directory
    let log := " INFO config loaded key_file=keys.txt template=.env.sample output=.env mode=append\n"
    let line := "error: key file keys.txt: file not found (expected line 1 'Verification Key (Address): <value>', " ++
      "line 2 'Full Private Key: <value>')\n"
    run ⟨[], none⟩ files true [] = ⟨1, "", log ++ line, files⟩ ∧ run ⟨[], none⟩ other true [] = ⟨1, "", log ++ line, other⟩ := by
  intro files other log line
  let failure : Failure := .missingKeyFile (.ofString "keys.txt") "file not found"
  have hwords : Arguments.parse [] = .ok {} := rfl
  have hplan : Plan.load ⟨[], none⟩ files none {} = .ok {} := eq_ok_of_toOption (by decide +kernel)
  have hlevel : LevelFilter.parse "info" = .ok (.upTo .info) := eq_ok_of_toOption (by decide +kernel)
  have hkeys : KeyFile.load files (.ofString "keys.txt") = .error failure := by decide +kernel
  have hstop : Stop ⟨[], none⟩ files {} [Plan.defaultFile, .ofString "keys.txt"]
      (Event.log (.upTo .info) [configLoaded {}]) failure := .seeding hplan hlevel rfl (.keyFile hkeys)
  have hagree : files.AgreeAlong [Plan.defaultFile, .ofString "keys.txt"] other := ⟨rfl, by decide +kernel⟩
  have hlog : Event.log (.upTo .info) [configLoaded {}] = log := by decide +kernel
  have hline : s!"error: {failure.message}\n" = line := by decide +kernel
  have hruns := (outcome_of_first_failure ⟨[], none⟩ files hwords).2 _ _ _ hstop
  rw [hlog, hline] at hruns
  exact ⟨hruns files (.refl _ files), hruns other hagree⟩

end Command

end EnvSeed
