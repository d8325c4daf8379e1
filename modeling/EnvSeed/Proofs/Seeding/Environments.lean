import EnvSeed.Proofs.Dotenv.Faults
import EnvSeed.Proofs.Seeding.Paired

/-!
# One run in two environments

Beside the secret that it is given a run takes nothing from its environment but what the variables in the output
mean when it is checked. So another environment makes a difference only if the entries of the output are read,
and then only to the summary of them.
-/

namespace EnvSeed.Seeding

/-- The run brought a report, and for its check the entries of the output were read. -/
structure Checked (plan : Plan) (key : String) (entries : List Dotenv.Entry) (seeding : Seeding) : Prop where
  result : ∃ report, seeding.result = .ok report
  key : checkedKey? plan.marker = some key
  entries : ∃ bytes, seeding.files.read plan.output = .ok bytes ∧ Dotenv.parse bytes = .ok entries

/-- The end of a run: the output is checked, and the report and the events tell what came of it. -/
def finished (environment : Environment) (plan : Plan) (report : Report) (events : List Event)
    (files : FileSystem) : Seeding where
  result := .ok { report with outputCheck := (check environment files plan).1 }
  events := events ++ (check environment files plan).2
  files := files

/-- The end of a run whose check comes to a summary. -/
def summarized (plan : Plan) (key : String) (report : Report) (events : List Event) (files : FileSystem)
    (summary : Dotenv.Summary) : Seeding where
  result := .ok { report with outputCheck := some summary }
  events := events ++ [Dotenv.inspected plan.output key summary]
  files := files

section Check

variable {environment : Environment} {files : FileSystem} {plan : Plan} {key : String}
  {entries : List Dotenv.Entry} {bytes : ByteArray}

/-- A check that reads the entries comes to their summary. -/
theorem check_of_entries (hkey : checkedKey? plan.marker = some key) (hread : files.read plan.output = .ok bytes)
    (hparse : Dotenv.parse bytes = .ok entries) :
    check environment files plan = (some (Dotenv.summarize environment key entries),
      [Dotenv.inspected plan.output key (Dotenv.summarize environment key entries)]) := by
  simp only [check, hkey, Dotenv.inspect_of_entries hread hparse]

/-- A run that reads the entries ends with their summary. -/
theorem finished_of_entries (report : Report) (events : List Event) (hkey : checkedKey? plan.marker = some key)
    (hread : files.read plan.output = .ok bytes) (hparse : Dotenv.parse bytes = .ok entries) :
    finished environment plan report events files =
      summarized plan key report events files (Dotenv.summarize environment key entries) := by
  unfold finished
  rw [check_of_entries hkey hread hparse]
  rfl

/-- A check that does not come to the entries is the same in every environment. -/
theorem check_eq_or (environment environment' : Environment) (files : FileSystem) (plan : Plan) :
    check environment' files plan = check environment files plan ∨
      ∃ key bytes entries, checkedKey? plan.marker = some key ∧ files.read plan.output = .ok bytes ∧
        Dotenv.parse bytes = .ok entries := by
  cases hkey : checkedKey? plan.marker with
  | none => exact .inl (by simp only [check, hkey])
  | some key =>
    cases hopen : files.open? plan.output with
    | error fault => exact .inl (by simp only [check, hkey, Dotenv.inspect, hopen])
    | ok node =>
      cases hread : node.read with
      | error fault => exact .inl (by simp only [check, hkey, Dotenv.inspect, hopen, hread])
      | ok bytes =>
        cases hparse : Dotenv.parse bytes with
        | error fault => exact .inl (by simp only [check, hkey, Dotenv.inspect, hopen, hread, hparse])
        | ok entries =>
          have hbytes : files.read plan.output = .ok bytes := by simp only [FileSystem.read, hopen, hread]
          exact .inr ⟨key, bytes, entries, rfl, hbytes, hparse⟩

end Check

variable {environment environment' : Environment} {files : FileSystem} {plan : Plan} {override override' : Option String}

section Runs

variable (environment environment' : Environment) (files : FileSystem) {plan : Plan} {key : String}
  {entries : List Dotenv.Entry} {override override' : Option String}

/-- Two runs on one file system with one secret fail alike, or come to the check with the same in hand. -/
theorem run_cases_of_choose (hsecret : ∀ keys, Secret.choose keys plan.keyFile plan.overrideVar override' =
      Secret.choose keys plan.keyFile plan.overrideVar override) :
    (∃ failure events, run environment files plan override = ⟨.error failure, events, files⟩ ∧
      run environment' files plan override' = ⟨.error failure, events, files⟩) ∨
    ∃ report events after, report.checkedKey = checkedKey? plan.marker ∧
      run environment files plan override = finished environment plan report events after ∧
      run environment' files plan override' = finished environment' plan report events after := by
  cases hkeys : KeyFile.load files plan.keyFile with
  | error failure =>
    have hrun (surroundings : Environment) (given : Option String) :
        run surroundings files plan given = ⟨.error failure, [], files⟩ := by simp only [run, hkeys]
    exact .inl ⟨failure, [], hrun _ _, hrun _ _⟩
  | ok keys =>
    have hcourse : PairedCourse environment environment' plan files files keys keys _ _
        (run environment files plan override) (run environment' files plan override') :=
      pairedCourse_run (.refl plan files) hkeys hkeys rfl (hsecret keys) rfl
    generalize run environment files plan override = one at hcourse ⊢
    generalize run environment' files plan override' = two at hcourse ⊢
    cases hcourse with
    | failed failure events => exact .inl ⟨failure, _, rfl, rfl⟩
    | @written template bytes events after after' hwrite hwrite' =>
      -- Both write the same data to the same files.
      obtain rfl : after = after' := congrArg WriteAttempt.files (hwrite.symm.trans hwrite')
      have hevents (surroundings : Environment) :
          keysLoaded plan :: secretResolved (Secret.choose keys plan.keyFile plan.overrideVar override).source ::
            (events ++ outputWritten plan bytes :: (check surroundings after plan).2) =
          (keysLoaded plan :: secretResolved (Secret.choose keys plan.keyFile plan.overrideVar override).source ::
            (events ++ [outputWritten plan bytes])) ++ (check surroundings after plan).2 := by
        simp
      rw [hevents environment, hevents environment']
      exact .inr ⟨report plan keys _ _ bytes none, _, after, rfl, rfl, rfl⟩

/-- In another environment a run with the same secret is the same, unless it reads the entries of its output. -/
theorem run_eq_or_checked (hsecret : ∀ keys, Secret.choose keys plan.keyFile plan.overrideVar override' =
      Secret.choose keys plan.keyFile plan.overrideVar override) :
    run environment' files plan override' = run environment files plan override ∨
      ∃ key entries, Checked plan key entries (run environment files plan override) := by
  obtain ⟨failure, events, hone, htwo⟩ | ⟨report, events, after, -, hone, htwo⟩ :=
    run_cases_of_choose environment environment' files hsecret
  · exact .inl (htwo.trans hone.symm)
  · rw [hone, htwo]
    obtain heq | ⟨key, bytes, entries, hkey, hread, hparse⟩ := check_eq_or environment environment' after plan
    · rw [finished, finished, heq]
      exact .inl rfl
    · exact .inr ⟨key, entries, ⟨_, rfl⟩, hkey, bytes, hread, hparse⟩

/-- A run that reads the entries of its output, and one with the same secret in another environment, differ in
nothing but the summary of the entries. -/
theorem run_of_checked (hsecret : ∀ keys, Secret.choose keys plan.keyFile plan.overrideVar override' =
      Secret.choose keys plan.keyFile plan.overrideVar override)
    (h : Checked plan key entries (run environment files plan override)) :
    ∃ report events after, report.checkedKey = some key ∧
      run environment files plan override =
        summarized plan key report events after (Dotenv.summarize environment key entries) ∧
      run environment' files plan override' =
        summarized plan key report events after (Dotenv.summarize environment' key entries) := by
  obtain ⟨⟨report', hreport⟩, hkey, bytes, hread, hparse⟩ := h
  obtain ⟨failure, events, hone, htwo⟩ | ⟨report, events, after, hchecked, hone, htwo⟩ :=
    run_cases_of_choose environment environment' files hsecret
  · rw [hone] at hreport
    cases hreport
  · rw [hone] at hread
    exact ⟨report, events, after, hchecked.trans hkey,
      hone.trans (finished_of_entries report events hkey hread hparse),
      htwo.trans (finished_of_entries report events hkey hread hparse)⟩

end Runs

end EnvSeed.Seeding
