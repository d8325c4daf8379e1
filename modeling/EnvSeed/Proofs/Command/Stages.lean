import EnvSeed.Command.Outcome

/-!
# The stages of an invocation

An invocation is refused for its words, or it stops at the first of its stages that fails, or it comes to
the run and ends as the run does. The five ways are given here with what each leaves behind.
-/

namespace EnvSeed.Command

variable (environment : Environment) (files : FileSystem) (accepts : Bool) (words : List ByteArray)

/-- The ways of an invocation, each with its outcome. -/
inductive Course : Outcome → Prop
  | refused {refusal : Refusal} (hwords : Arguments.parse words = .error refusal) :
      Course (refused environment files accepts refusal)
  | noPlan {arguments : Arguments} {failure : Failure} (hwords : Arguments.parse words = .ok arguments)
      (hplan : Plan.load environment files arguments.config arguments.overrides = .error failure) :
      Course (failed files "" failure)
  | noLevel {arguments : Arguments} {plan : Plan} {failure : Failure}
      (hwords : Arguments.parse words = .ok arguments)
      (hplan : Plan.load environment files arguments.config arguments.overrides = .ok plan)
      (hlevel : LevelFilter.parse plan.logLevel = .error failure) :
      Course (failed files "" failure)
  | noOverride {arguments : Arguments} {plan : Plan} {filter : LevelFilter} {failure : Failure}
      (hwords : Arguments.parse words = .ok arguments)
      (hplan : Plan.load environment files arguments.config arguments.overrides = .ok plan)
      (hlevel : LevelFilter.parse plan.logLevel = .ok filter)
      (hgiven : Secret.given environment plan.overrideVar = .error failure) :
      Course (failed files (Event.log filter [configLoaded plan]) failure)
  | seeded {arguments : Arguments} {plan : Plan} {filter : LevelFilter} {override : Option String}
      (hwords : Arguments.parse words = .ok arguments)
      (hplan : Plan.load environment files arguments.config arguments.overrides = .ok plan)
      (hlevel : LevelFilter.parse plan.logLevel = .ok filter)
      (hgiven : Secret.given environment plan.overrideVar = .ok override) :
      Course (finish accepts filter plan (Seeding.run environment files plan override))

variable {environment files words} in
/-- An invocation none of whose first stages fails comes to the run. -/
theorem run_of_given {arguments : Arguments} {plan : Plan} {filter : LevelFilter} {override : Option String}
    (hwords : Arguments.parse words = .ok arguments)
    (hplan : Plan.load environment files arguments.config arguments.overrides = .ok plan)
    (hlevel : LevelFilter.parse plan.logLevel = .ok filter)
    (hgiven : Secret.given environment plan.overrideVar = .ok override) :
    run environment files accepts words =
      finish accepts filter plan (Seeding.run environment files plan override) := by
  simp only [run, hwords, execute, hplan, hlevel, hgiven]

/-- Every invocation goes one of these ways. -/
theorem course_run : Course environment files accepts words (run environment files accepts words) := by
  cases hwords : Arguments.parse words with
  | error refusal =>
    have hrun : run environment files accepts words = refused environment files accepts refusal := by
      simp only [run, hwords]
    exact hrun ▸ .refused hwords
  | ok arguments =>
    have hrun : run environment files accepts words = execute environment files accepts arguments := by
      simp only [run, hwords]
    cases hplan : Plan.load environment files arguments.config arguments.overrides with
    | error failure =>
      have hstop : execute environment files accepts arguments = failed files "" failure := by
        simp only [execute, hplan]
      exact hrun.trans hstop ▸ .noPlan hwords hplan
    | ok plan =>
      cases hlevel : LevelFilter.parse plan.logLevel with
      | error failure =>
        have hstop : execute environment files accepts arguments = failed files "" failure := by
          simp only [execute, hplan, hlevel]
        exact hrun.trans hstop ▸ .noLevel hwords hplan hlevel
      | ok filter =>
        cases hgiven : Secret.given environment plan.overrideVar with
        | error failure =>
          have hstop : execute environment files accepts arguments =
              failed files (Event.log filter [configLoaded plan]) failure := by
            simp only [execute, hplan, hlevel, hgiven]
          exact hrun.trans hstop ▸ .noOverride hwords hplan hlevel hgiven
        | ok override =>
          exact run_of_given accepts hwords hplan hlevel hgiven ▸ .seeded hwords hplan hlevel hgiven

/-- Refused arguments leave the files as they were. -/
theorem files_refused (refusal : Refusal) : (refused environment files accepts refusal).files = files := by
  cases refusal <;> rfl

/-- The last stage passes on the files of the run, whatever becomes of the report. -/
theorem files_finish (filter : LevelFilter) (plan : Plan) (seeding : Seeding) :
    (finish accepts filter plan seeding).files = seeding.files := by
  unfold finish
  cases seeding.result with
  | error failure => rfl
  | ok report => cases accepts <;> rfl

end EnvSeed.Command
