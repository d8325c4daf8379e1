import EnvSeed.Proofs.Command.Stages
import EnvSeed.Proofs.Seeding.Stages

/-!
# Failures change nothing

A run that brings no report leaves the files exactly as they were, wherever it stopped: nothing is made,
emptied or lengthened on the way to a failure. An invocation that fails for any other reason than a
standard output that takes nothing has not changed the files either, and the standard output has no say
in what the files become.
-/

namespace EnvSeed

/-- A run that fails leaves the files as they were. -/
theorem Seeding.files_of_error {environment : Environment} {files : FileSystem} {plan : Plan}
    {override : Option String} {failure : Failure}
    (h : (run environment files plan override).result = .error failure) :
    (run environment files plan override).files = files := by
  have hcourse := course_run environment files plan override
  generalize run environment files plan override = seeding at h hcourse ⊢
  cases hcourse with
  | noKeys => rfl
  | noTemplate => rfl
  | refused => rfl
  | written => cases h

namespace Command

/-- What an invocation does to the files does not depend on what becomes of its output. -/
theorem files_run_eq (environment : Environment) (files : FileSystem) (accepts : Bool)
    (words : List ByteArray) :
    (run environment files accepts words).files = (run environment files true words).files := by
  unfold run
  split
  · rw [files_refused, files_refused]
  · unfold execute
    split
    · rfl
    · split
      · rfl
      · split
        · rfl
        · rw [files_finish, files_finish]

/-- An invocation whose output is taken leaves the files as they were unless it ends well. -/
theorem files_of_exit_ne_zero {environment : Environment} {files : FileSystem} {words : List ByteArray}
    (h : (run environment files true words).exit ≠ 0) : (run environment files true words).files = files := by
  have hcourse := course_run environment files true words
  generalize run environment files true words = outcome at h hcourse ⊢
  cases hcourse with
  | refused => exact files_refused environment files true _
  | noPlan => rfl
  | noLevel => rfl
  | noOverride => rfl
  | @seeded _ plan filter override =>
    rw [files_finish]
    cases hresult : (Seeding.run environment files plan override).result with
    | error failure => exact Seeding.files_of_error hresult
    | ok report =>
      refine absurd ?_ h
      simp only [finish, hresult, if_true]

end Command

/-- A failure leaves the files as they were: a run without a report, and an invocation whose output is
taken and which does not end with code 0. One whose output is refused makes of the files what it would
have made of them otherwise. -/
theorem files_unchanged_of_failure (environment : Environment) (files : FileSystem) :
    (∀ (plan : Plan) (override : Option String) (failure : Failure),
      (Seeding.run environment files plan override).result = .error failure →
        (Seeding.run environment files plan override).files = files) ∧
    (∀ words : List ByteArray, (Command.run environment files true words).exit ≠ 0 →
      (Command.run environment files true words).files = files) ∧
    ∀ words : List ByteArray, (Command.run environment files false words).files =
      (Command.run environment files true words).files :=
  ⟨fun _ _ _ => Seeding.files_of_error, fun _ => Command.files_of_exit_ne_zero,
    Command.files_run_eq environment files false⟩

/-- An invocation that reads everything and then finds its output full leaves the files as they were. -/
theorem files_unchanged_of_full_output :
    let files := Seeding.sampleFiles "PRIVATE_KEY=\n"
    let words := ["--output".toUTF8, "/dev/full".toUTF8]
    (Command.run ⟨[], none⟩ files true words).exit ≠ 0 ∧ (Command.run ⟨[], none⟩ files true words).files = files := by
  intro files words
  have hexit : (Command.run ⟨[], none⟩ files true words).exit ≠ 0 := by decide +kernel
  exact ⟨hexit, (files_unchanged_of_failure ⟨[], none⟩ files).2.1 words hexit⟩

end EnvSeed
