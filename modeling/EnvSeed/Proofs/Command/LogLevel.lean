import EnvSeed.Proofs.Command.LevelOption
import EnvSeed.Proofs.Command.Stages
import EnvSeed.Proofs.Seeding.Stages

/-!
# The log level filters the log

A log level in front of other arguments wins over every other source of a level, and nothing else in an invocation
depends on it. So two invocations whose levels alone differ end alike and leave the same files, and tell of the
same events those that their level shows.
-/

namespace EnvSeed

/-- What a filter shows is shown by every filter that shows at least as much. -/
theorem LevelFilter.shows_of_rank_le {few many : LevelFilter} {level : Level} (hrank : few.rank ≤ many.rank)
    (hshows : few.shows level = true) : many.shows level = true := by
  have hfew : level.rank ≤ few.rank := of_decide_eq_true hshows
  exact decide_eq_true (Nat.le_trans hfew hrank)

/-- Which level wins over the other sources makes no difference to the rest of a plan. -/
theorem Plan.load_withLevel (environment : Environment) (files : FileSystem) (path : Option Path)
    (overrides : Overrides) :
    ∃ result : Except Failure Plan, ∀ level, load environment files path { overrides with logLevel := some level } =
      result.map fun plan => { plan with logLevel := level } := by
  have hresolve (settings : Settings) : ∃ result : Except Failure Plan, ∀ level,
      resolve environment settings { overrides with logLevel := some level } =
        result.map fun plan => { plan with logLevel := level } := by
    refine ⟨resolve environment settings overrides, fun level => ?_⟩
    unfold resolve
    split
    · rfl
    · split <;> rfl
  unfold load fromFile
  cases chosenFile files path with
  | none => exact hresolve {}
  | some chosen =>
    simp only
    cases readSettings files chosen with
    | error failure => exact ⟨.error failure, fun _ => rfl⟩
    | ok settings => exact hresolve settings

/-- Without a filter's leave nothing is logged. -/
theorem Event.log_off (events : List Event) : log .off events = "" := by
  have hnone : events.filter (fun event => LevelFilter.off.shows event.level) = [] := by
    rw [List.filter_eq_nil_iff]
    intro event _
    cases hlevel : event.level <;> decide
  rw [log, hnone]
  rfl

namespace Command

open Arguments (atLevel withLevel)

/-- The events of an invocation from the moment on that its level is known. -/
def events (environment : Environment) (files : FileSystem) (words : List ByteArray) : List Event :=
  match Arguments.parse words with
  | .error _ => []
  | .ok arguments =>
    match Plan.load environment files arguments.config arguments.overrides with
    | .error _ => []
    | .ok plan =>
      match Secret.given environment plan.overrideVar with
      | .error _ => [configLoaded plan]
      | .ok override => configLoaded plan :: (Seeding.run environment files plan override).events

/-- The last thing that an invocation tells is its failure, if it has one. -/
def EndsWithFailure (outcome : Outcome) : Prop :=
  (outcome.exit = 1 ∧ ∃ failure, outcome.stderr = errorLine failure) ∨ (outcome.exit ≠ 1 ∧ outcome.stderr = "")

section

variable (accepts : Bool) (plan : Plan) (seeding : Seeding)

/-- Where nothing is logged a run tells its failure alone. -/
theorem endsWithFailure_finish : EndsWithFailure (finish accepts .off plan seeding) := by
  unfold finish
  cases seeding.result with
  | error failure => exact .inl ⟨rfl, failure, by simp only [failed, Event.log_off, String.empty_append]⟩
  | ok report =>
    cases accepts with
    | true => exact .inr ⟨by simp, Event.log_off _⟩
    | false =>
      refine .inl ⟨rfl, .io FileFault.noSpace.message, ?_⟩
      simp only [Bool.false_eq_true, if_false, failed, Event.log_off, String.empty_append]

/-- A run that is logged ends as one that is not. -/
theorem finish_filter (filter : LevelFilter) :
    finish accepts filter plan seeding = { finish accepts .off plan seeding with
      stderr := Event.log filter (configLoaded plan :: seeding.events) ++
        (finish accepts .off plan seeding).stderr } := by
  unfold finish
  cases seeding.result with
  | error failure => simp only [failed, Event.log_off, String.empty_append]
  | ok report =>
    cases accepts with
    | true => simp only [if_true, Event.log_off, String.append_empty]
    | false => simp only [Bool.false_eq_true, if_false, failed, Event.log_off, String.empty_append]

end

variable (environment : Environment) (files : FileSystem) (accepts : Bool) (words : List ByteArray)

/-- All invocations that differ in their level alone have the same events, and their outcomes are the same but for
the log of these. -/
theorem run_atLevel :
    ∃ (told : List Event) (quiet : Outcome), EndsWithFailure quiet ∧ ∀ level filter,
      LevelFilter.parse level = .ok filter → events environment files (atLevel level words) = told ∧
        run environment files accepts (atLevel level words) =
          { quiet with stderr := Event.log filter told ++ quiet.stderr } := by
  obtain ⟨parsed, hparse⟩ := Arguments.parse_atLevel words
  cases parsed with
  | error refusal =>
    refine ⟨[], refused environment files accepts refusal, .inr ?_, fun level filter hlevel => ?_⟩
    · cases refusal <;> simp [refused]
    · have hwords : Arguments.parse (atLevel level words) = .error refusal := hparse level filter hlevel
      simp only [events, run, hwords, true_and]
      cases refusal <;> rfl
  | ok arguments =>
    obtain ⟨loaded, hload⟩ := Plan.load_withLevel environment files arguments.config arguments.overrides
    have hwords {level : String} {filter : LevelFilter} (hlevel : LevelFilter.parse level = .ok filter) :
        Arguments.parse (atLevel level words) = .ok (arguments.withLevel level) := hparse level filter hlevel
    have hplan (level : String) : Plan.load environment files (arguments.withLevel level).config
        (arguments.withLevel level).overrides = loaded.map fun plan => { plan with logLevel := level } := hload level
    cases loaded with
    | error failure =>
      refine ⟨[], failed files "" failure, .inl ⟨rfl, failure, String.empty_append⟩, fun level filter hlevel => ?_⟩
      simp only [events, run, execute, hwords hlevel, hplan, Except.map, true_and]
      rfl
    | ok plan =>
      cases hgiven : Secret.given environment plan.overrideVar with
      | error failure =>
        refine ⟨[configLoaded plan], failed files "" failure, .inl ⟨rfl, failure, String.empty_append⟩,
          fun level filter hlevel => ?_⟩
        simp only [events, run, execute, hwords hlevel, hplan, Except.map, hlevel, hgiven]
        exact ⟨rfl, rfl⟩
      | ok override =>
        let seeding := Seeding.run environment files plan override
        refine ⟨configLoaded plan :: seeding.events, _, endsWithFailure_finish accepts plan seeding,
          fun level filter hlevel => ?_⟩
        rw [← finish_filter, run_of_given accepts (hwords hlevel) (hplan level) hlevel hgiven]
        simp only [events, hwords hlevel, hplan, Except.map, hgiven]
        exact ⟨rfl, rfl⟩

/-- The log level filters the log and does nothing else. Put in front of the same arguments, two levels of which the
second shows at least as much as the first make an invocation end with the same exit code, print the same and leave
the same files. What the second logs are the lines of those events that it shows; of these lines the first leaves
out those that it does not show. Behind them both tell the same failure, or both none. -/
theorem run_of_levels {environment : Environment} {files : FileSystem} {accepts : Bool} {words : List ByteArray}
    {low high : String} {few many : LevelFilter} (hlow : LevelFilter.parse low = .ok few)
    (hhigh : LevelFilter.parse high = .ok many) (hrank : few.rank ≤ many.rank) :
    let one := run environment files accepts ("--log-level".toUTF8 :: low.toUTF8 :: words)
    let two := run environment files accepts ("--log-level".toUTF8 :: high.toUTF8 :: words)
    let told := events environment files ("--log-level".toUTF8 :: high.toUTF8 :: words)
    let shown := told.filter fun event => many.shows event.level
    one.exit = two.exit ∧ one.stdout = two.stdout ∧ one.files = two.files ∧
    ∃ ending, two.stderr = String.join (shown.map Event.line) ++ ending ∧
      one.stderr = String.join ((shown.filter fun event => few.shows event.level).map Event.line) ++ ending ∧
      ((two.exit = 1 ∧ ∃ failure : Failure, ending = s!"error: {failure.message}\n") ∨
        (two.exit ≠ 1 ∧ ending = "")) := by
  intro one two told shown
  obtain ⟨events, quiet, hends, hruns⟩ := run_atLevel environment files accepts words
  have hone : one = { quiet with stderr := Event.log few events ++ quiet.stderr } := (hruns low few hlow).2
  have htwo : two = { quiet with stderr := Event.log many events ++ quiet.stderr } := (hruns high many hhigh).2
  have htold : told = events := (hruns high many hhigh).1
  -- What the first shows, the second shows too.
  have hfew : events.filter (fun event => few.shows event.level) =
      shown.filter fun event => few.shows event.level := by
    rw [← htold, List.filter_filter]
    refine List.filter_congr fun event _ => ?_
    rw [Bool.eq_iff_iff, Bool.and_eq_true]
    exact ⟨fun hshows => ⟨hshows, LevelFilter.shows_of_rank_le hrank hshows⟩, And.left⟩
  rw [hone, htwo]
  refine ⟨rfl, rfl, rfl, quiet.stderr, ?_, ?_, hends⟩
  · rw [Event.log, ← htold]
  · rw [Event.log, hfew]

/-- Two spellings of levels, in front of a template that cannot be read. -/
theorem run_of_levels_unreadable :
    let files := (Seeding.sampleFiles "").store ["tmp".toUTF8, "work".toUTF8, ".env.sample".toUTF8] .directory
    let one := run ⟨[], none⟩ files true ["--log-level".toUTF8, "+03".toUTF8]
    let two := run ⟨[], none⟩ files true ["--log-level".toUTF8, "Debug".toUTF8]
    one.exit = two.exit ∧ one.stdout = two.stdout ∧ one.files = two.files ∧ one.stderr ≠ two.stderr := by
  intro files one two
  have hlow : LevelFilter.parse "+03" = .ok (.upTo .info) := eq_ok_of_toOption (by decide +kernel)
  have hhigh : LevelFilter.parse "Debug" = .ok (.upTo .debug) := eq_ok_of_toOption (by decide +kernel)
  obtain ⟨hexit, hstdout, hfiles, -⟩ :=
    @run_of_levels ⟨[], none⟩ files true [] "+03" "Debug" _ _ hlow hhigh (by decide)
  exact ⟨hexit, hstdout, hfiles, by decide +kernel⟩

end Command

end EnvSeed
