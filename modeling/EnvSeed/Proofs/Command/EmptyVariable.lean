import EnvSeed.Proofs.Command.Stages
import EnvSeed.Proofs.Dotenv.Variables
import EnvSeed.Proofs.Seeding.Environments
import EnvSeed.Proofs.Seeding.Rendering

/-!
# An invocation with an empty variable

An empty variable is as good as none to everything in an invocation that reads it by name: the home directory, the
log level, the style of the help, and the override. It is not to the check of the output, where a variable that is
empty hides the entries of its name. So two invocations, one of which has no value for a variable where the other has
the empty one, end alike and leave the same files. What they tell is the same exactly if the check does not lose the
key.
-/

namespace EnvSeed

variable {name : String} {unset empty : Environment}

/-- A path is taken from the settings the same way. -/
theorem homePath_eq (h : unset.EmptyFor name empty) (text : String) : homePath empty text = homePath unset text := by
  simp only [homePath, h.home?_eq]

/-- The plan is the same. -/
theorem Plan.load_eq (h : unset.EmptyFor name empty) (files : FileSystem) (path : Option Path)
    (overrides : Overrides) :
    load empty files path overrides = load unset files path overrides := by
  have hresolve (settings : Settings) (overrides : Overrides) :
      resolve empty settings overrides = resolve unset settings overrides := by
    simp only [resolve, homePath_eq h]
  simp only [load, fromFile, withLogLevel, h.filter_text?, hresolve]

/-- The help has the same style. -/
theorem Help.isStyled_eq (h : unset.EmptyFor name empty) : isStyled empty = isStyled unset := by
  have hgiven (other : String) : isGiven empty other = isGiven unset other := by
    rw [isGiven, isGiven, ← Option.isSome_filter, ← Option.isSome_filter, h.filter_value?]
  simp only [isStyled, hgiven]

/-- An override that cannot be read cannot be read either way. -/
theorem Secret.given_of_error (h : unset.EmptyFor name empty) {overrideVar : String} {failure : Failure}
    (hgiven : given unset overrideVar = .error failure) : given empty overrideVar = .error failure := by
  by_cases hname : overrideVar = name
  · simp only [given, hname, h.value?_unset] at hgiven
    cases hgiven
  · simpa only [given, h.value?_eq overrideVar hname] using hgiven

/-- An override that can be read can be read either way, and leaves the choice of the secret the same. -/
theorem Secret.given_of_ok (h : unset.EmptyFor name empty) {overrideVar : String} {override : Option String}
    (hgiven : given unset overrideVar = .ok override) :
    ∃ override', given empty overrideVar = .ok override' ∧
      ∀ keys keyFile, choose keys keyFile overrideVar override' = choose keys keyFile overrideVar override := by
  by_cases hname : overrideVar = name
  · have hempty : String.fromUTF8? .empty = some "" := Text.fromUTF8?_toUTF8 ""
    simp only [given, hname, h.value?_unset, Except.ok.injEq] at hgiven
    refine ⟨some "", ?_, fun keys keyFile => ?_⟩
    · simp only [given, hname, h.value?_empty, hempty]
    · rw [← hgiven]
      rfl
  · exact ⟨override, by simpa only [given, h.value?_eq overrideVar hname] using hgiven, fun _ _ => rfl⟩

namespace Command

/-- The invocation comes to a run that reads the entries of its output for a key. -/
inductive Checks (environment : Environment) (files : FileSystem) (words : List ByteArray) (key : String)
    (entries : List Dotenv.Entry) : Prop
  | intro {arguments : Arguments} {plan : Plan} {filter : LevelFilter} {override : Option String}
      (hwords : Arguments.parse words = .ok arguments)
      (hplan : Plan.load environment files arguments.config arguments.overrides = .ok plan)
      (hlevel : LevelFilter.parse plan.logLevel = .ok filter)
      (hgiven : Secret.given environment plan.overrideVar = .ok override)
      (hchecked : Seeding.Checked plan key entries (Seeding.run environment files plan override))

section

variable (files : FileSystem) (accepts : Bool) (words : List ByteArray)

/-- Arguments that are not acted on have the same outcome. -/
theorem refused_eq (h : unset.EmptyFor name empty) (refusal : Refusal) :
    refused empty files accepts refusal = refused unset files accepts refusal := by
  cases refusal <;> simp only [refused, Help.isStyled_eq h]

/-- Without a value for the variable and with the empty one an invocation has the same outcome, unless it comes to
read the entries of its output. -/
theorem run_eq_or_checks (h : unset.EmptyFor name empty) :
    run empty files accepts words = run unset files accepts words ∨
      ∃ key entries, Checks unset files words key entries := by
  have hcourse := course_run unset files accepts words
  generalize run unset files accepts words = one at hcourse ⊢
  cases hcourse with
  | refused hwords =>
    left
    simp only [run, hwords, refused_eq files accepts h]
  | noPlan hwords hplan =>
    left
    simp only [run, hwords, execute, Plan.load_eq h, hplan]
  | noLevel hwords hplan hlevel =>
    left
    simp only [run, hwords, execute, Plan.load_eq h, hplan, hlevel]
  | noOverride hwords hplan hlevel hgiven =>
    left
    simp only [run, hwords, execute, Plan.load_eq h, hplan, hlevel, Secret.given_of_error h hgiven]
  | @seeded arguments plan filter override hwords hplan hlevel hgiven =>
    obtain ⟨override', hempty, hsecret⟩ := Secret.given_of_ok h hgiven
    have hplan' := (Plan.load_eq h files arguments.config arguments.overrides).trans hplan
    rw [run_of_given accepts hwords hplan' hlevel hempty]
    obtain heq | ⟨key, entries, hchecked⟩ :=
      Seeding.run_eq_or_checked unset empty files fun keys => hsecret keys plan.keyFile
    · rw [heq]
      exact .inl rfl
    · exact .inr ⟨key, entries, .intro hwords hplan hlevel hgiven hchecked⟩

/-- If it comes to read the entries, the outcomes differ in nothing but what the summaries of the entries make of
the end of the run. -/
theorem run_of_checks (h : unset.EmptyFor name empty) {key : String} {entries : List Dotenv.Entry}
    (hchecks : Checks unset files words key entries) :
    ∃ filter plan report events after, report.checkedKey = some key ∧
      run unset files accepts words = finish accepts filter plan
        (Seeding.summarized plan key report events after (Dotenv.summarize unset key entries)) ∧
      run empty files accepts words = finish accepts filter plan
        (Seeding.summarized plan key report events after (Dotenv.summarize empty key entries)) := by
  obtain @⟨arguments, plan, filter, override, hwords, hplan, hlevel, hgiven, hchecked⟩ := hchecks
  obtain ⟨override', hempty, hsecret⟩ := Secret.given_of_ok h hgiven
  have hplan' := (Plan.load_eq h files arguments.config arguments.overrides).trans hplan
  obtain ⟨report, events, after, hkey, hone, htwo⟩ :=
    Seeding.run_of_checked unset empty files (fun keys => hsecret keys plan.keyFile) hchecked
  rw [run_of_given accepts hwords hplan hlevel hgiven, run_of_given accepts hwords hplan' hlevel hempty, hone, htwo]
  exact ⟨filter, plan, report, events, after, hkey, rfl, rfl⟩

/-- Neither the exit code nor the files depend on the summary. -/
theorem finish_summarized (filter : LevelFilter) (plan : Plan) (key : String) (report : Report)
    (events : List Event) (after : FileSystem) (summary other : Dotenv.Summary) :
    let one := finish accepts filter plan (Seeding.summarized plan key report events after summary)
    let two := finish accepts filter plan (Seeding.summarized plan key report events after other)
    two.exit = one.exit ∧ two.files = one.files := by
  cases accepts <;> exact ⟨rfl, rfl⟩

/-- A report that can be printed is. -/
theorem stdout_finish_summarized (filter : LevelFilter) (plan : Plan) (key : String) (report : Report)
    (events : List Event) (after : FileSystem) (summary : Dotenv.Summary) :
    (finish true filter plan (Seeding.summarized plan key report events after summary)).stdout =
      { report with outputCheck := some summary }.render := rfl

/-- The exit code and the files are the same. -/
theorem exit_files_eq (h : unset.EmptyFor name empty) :
    (run empty files accepts words).exit = (run unset files accepts words).exit ∧
      (run empty files accepts words).files = (run unset files accepts words).files := by
  obtain heq | ⟨key, entries, hchecks⟩ := run_eq_or_checks files accepts words h
  · rw [heq]
    exact ⟨rfl, rfl⟩
  · obtain ⟨filter, plan, report, events, after, -, hone, htwo⟩ := run_of_checks files accepts words h hchecks
    rw [hone, htwo]
    exact finish_summarized accepts filter plan key report events after _ _

/-- The outcome is the same if the check does not lose the key. -/
theorem run_eq_of_keepsKey (h : unset.EmptyFor name empty)
    (hkeeps : ∀ key entries, Checks unset files words key entries → Dotenv.KeepsKey unset empty key entries) :
    run empty files accepts words = run unset files accepts words := by
  obtain heq | ⟨key, entries, hchecks⟩ := run_eq_or_checks files accepts words h
  · exact heq
  · have hsummary := (Dotenv.summarize_eq_iff h key entries).mpr (hkeeps key entries hchecks)
    obtain ⟨filter, plan, report, events, after, -, hone, htwo⟩ := run_of_checks files accepts words h hchecks
    rw [htwo, hsummary, hone]

/-- If the same is printed the check does not lose the key. -/
theorem keepsKey_of_stdout_eq (h : unset.EmptyFor name empty) {key : String} {entries : List Dotenv.Entry}
    (hchecks : Checks unset files words key entries)
    (hstdout : (run empty files true words).stdout = (run unset files true words).stdout) :
    Dotenv.KeepsKey unset empty key entries := by
  obtain ⟨filter, plan, report, events, after, hkey, hone, htwo⟩ := run_of_checks files true words h hchecks
  rw [hone, htwo, stdout_finish_summarized, stdout_finish_summarized] at hstdout
  exact (Dotenv.summarize_eq_iff h key entries).mp (Report.summary_eq_of_render_eq hkey rfl hstdout)

end

/-- Two invocations that differ in a variable alone, which has no value in the first and is empty in the second,
end with the same exit code and leave the same files. They have the same outcome if the check of the output does
not lose the key in the second, and only then if the report can be printed. It does not lose a key that is the
variable itself, nor any if no entry of the output reads the variable behind one that assigns it. -/
theorem run_of_emptyFor (h : unset.EmptyFor name empty) (files : FileSystem) (accepts : Bool)
    (words : List ByteArray) :
    let one := run unset files accepts words
    let two := run empty files accepts words
    let keeps := ∀ key entries, Checks unset files words key entries → Dotenv.KeepsKey unset empty key entries
    two.exit = one.exit ∧ two.files = one.files ∧ (keeps → two = one) ∧ (accepts = true → two = one → keeps) ∧
    ∀ key entries, (key = name ∨ entries.Pairwise fun entry later => entry.key = name → ¬ later.Reads name) →
      Dotenv.KeepsKey unset empty key entries := by
  intro one two keeps
  obtain ⟨hexit, hfiles⟩ := exit_files_eq files accepts words h
  refine ⟨hexit, hfiles, run_eq_of_keepsKey files accepts words h, ?_, ?_⟩
  · intro haccepts heq key entries hchecks
    subst haccepts
    exact keepsKey_of_stdout_eq files words h hchecks (congrArg Outcome.stdout heq)
  · rintro key entries (rfl | hentries)
    · exact Dotenv.keepsKey_of_key_eq h entries
    · exact (Dotenv.summarize_eq_iff h key entries).mp (Dotenv.summarize_eq_of_pairwise h key hentries)

/-- An output that reads the override variable behind the line that assigns it, which is the one that is checked. -/
theorem run_of_emptyFor_own_key :
    let files := Seeding.sampleFiles "PRIVATE_KEY=\nB=$PRIVATE_KEY\n"
    let one := run ⟨[], none⟩ files true []
    let two := run ⟨[Environment.setting "PRIVATE_KEY" .empty], none⟩ files true []
    one.exit = 0 ∧ two = one := by
  intro files one two
  have hempty : Environment.EmptyFor "PRIVATE_KEY" ⟨[], none⟩ ⟨[Environment.setting "PRIVATE_KEY" .empty], none⟩ :=
    @Environment.emptyFor_insert "PRIVATE_KEY" [] [] none (by decide) (by decide) (by decide) rfl
  have hruns := run_of_emptyFor hempty files true []
  refine ⟨by decide +kernel, hruns.2.2.1 fun key entries hchecks => ?_⟩
  -- Without words and settings the plan is the default one, whose marker assigns the variable.
  obtain @⟨arguments, plan, filter, override, hwords, hplan, -, -, hchecked⟩ := hchecks
  obtain rfl : {} = arguments := Except.ok.inj hwords
  have hdefault : Plan.load ⟨[], none⟩ files none {} = .ok {} := eq_ok_of_toOption (by decide +kernel)
  obtain rfl : {} = plan := Except.ok.inj (hdefault.symm.trans hplan)
  have hkey : "PRIVATE_KEY" = key := Option.some.inj hchecked.key
  exact hruns.2.2.2.2 key entries (.inl hkey.symm)

/-- An output that reads the override variable behind the line that assigns it, in the line that is checked. -/
theorem run_ne_of_emptyFor_reread :
    let settings := "[secret]\nenv_var = \x22SEED\x22\n".toUTF8
    let files := (Seeding.sampleFiles "# PRIVATE_KEY=\nSEED=1\nPRIVATE_KEY=$SEED\n").store
      ["tmp".toUTF8, "work".toUTF8, "envboot.toml".toUTF8] (.file settings 0o644)
    let unset : Environment := ⟨[], none⟩
    let empty : Environment := ⟨[Environment.setting "SEED" .empty], none⟩
    unset.EmptyFor "SEED" empty ∧ (Plan.load unset files none {}).toOption.map (·.overrideVar) = some "SEED" ∧
      (run unset files true []).stdout ≠ (run empty files true []).stdout := by
  intro settings files unset empty
  have hempty : unset.EmptyFor "SEED" empty :=
    @Environment.emptyFor_insert "SEED" [] [] none (by decide) (by decide) (by decide) rfl
  exact ⟨hempty, by decide +kernel, by decide +kernel⟩

end Command

end EnvSeed
