import EnvSeed.Proofs.Files.Evolution
import EnvSeed.Proofs.Seeding.Stages

/-!
# Sessions

A session is a sequence of runs, with any settings, on any outputs, some of which may fail. Each run changes
at most the file that its output names. Over a whole session no directory comes or goes, no file goes away,
a file keeps the permissions it had when it first was there, and those of a file that a run makes are its
owner's alone.
-/

namespace EnvSeed.Seeding

/-- What a run is asked to do, and the environment it is asked in. -/
structure Request where
  environment : Environment
  plan : Plan
  override : Option String

/-- The files after the run that was asked for. -/
def Request.perform (request : Request) (files : FileSystem) : FileSystem :=
  (run request.environment files request.plan request.override).files

/-- The files after runs that follow each other. -/
def session (files : FileSystem) (requests : List Request) : FileSystem :=
  requests.foldl (fun files request => request.perform files) files

/-- A run does nothing to the files but write its output, if it comes to that. -/
theorem files_run_cases (environment : Environment) (files : FileSystem) (plan : Plan) (override : Option String) :
    (run environment files plan override).files = files ∨
      ∃ data, (run environment files plan override).files =
        (files.tryWrite plan.output plan.writeMode data).files := by
  have hcourse := course_run environment files plan override
  generalize run environment files plan override = seeding at hcourse ⊢
  cases hcourse with
  | noKeys => exact .inl rfl
  | noTemplate => exact .inl rfl
  | refused => exact .inl rfl
  | written hread hwrite => exact .inr ⟨_, (congrArg WriteAttempt.files hwrite).symm⟩

namespace Request

/-- A run that changes a location has made or rewritten the file that its output names. -/
theorem resolve_of_node?_perform_ne {request : Request} {files : FileSystem} {place : Location}
    (h : (request.perform files).node? place ≠ files.node? place) :
    files.resolve request.plan.output = .ok place ∧ files.IsRegular place ∧
      ∃ content, (request.perform files).node? place = some (.file content (files.permissionsAt place)) := by
  obtain hrun | ⟨data, hrun⟩ :=
    files_run_cases request.environment files request.plan request.override
  · exact absurd (congrArg (FileSystem.node? · place) hrun) h
  · rw [perform, hrun] at h ⊢
    exact files.resolve_of_node?_tryWrite_ne _ _ _ h

/-- What a run leaves behind comes from what it found. -/
theorem evolves_perform (request : Request) (files : FileSystem) : files.Evolves (request.perform files) := by
  obtain hrun | ⟨data, hrun⟩ :=
    files_run_cases request.environment files request.plan request.override
  · rw [perform, hrun]
    exact .refl files
  · rw [perform, hrun]
    exact files.evolves_tryWrite _ _ data

end Request

/-- One session after the other is a session. -/
theorem session_append (files : FileSystem) (front back : List Request) :
    session files (front ++ back) = session (session files front) back :=
  List.foldl_append

/-- What a session leaves behind comes from what it found. -/
theorem evolves_session (files : FileSystem) (requests : List Request) : files.Evolves (session files requests) := by
  induction requests generalizing files with
  | nil => exact .refl files
  | cons request rest ih => exact (request.evolves_perform files).trans (ih (request.perform files))

/-- A location that no output of a session names is left alone. -/
theorem node?_session {files : FileSystem} {requests : List Request} {place : Location}
    (h : ∀ request ∈ requests, files.resolve request.plan.output ≠ .ok place) :
    (session files requests).node? place = files.node? place := by
  induction requests generalizing files with
  | nil => rfl
  | cons request rest ih =>
    -- Where the later outputs lead is the same after the first run as before it.
    have hrest : ∀ other ∈ rest, (request.perform files).resolve other.plan.output ≠ .ok place := by
      intro other hother hresolve
      exact h other (List.mem_cons_of_mem request hother) ((request.evolves_perform files).resolve_iff.mp hresolve)
    have hfirst : (request.perform files).node? place = files.node? place := by
      refine Decidable.byContradiction fun hne => ?_
      exact h request List.mem_cons_self (Request.resolve_of_node?_perform_ne hne).1
    exact (ih hrest).trans hfirst

/-- At any moment of a session the next run changes at most one location: the one its output names, if there is
a regular file or nothing, and then there is a file, under the permissions it had or else those of a new one.
Over the whole session no directory comes or goes. Every file there is at that moment is still there at the
end, under the permissions it has now, and under mode 0600 if there was none at the start. What no later output
names is at the end as it is now. -/
theorem frame_of_session (files : FileSystem) (front back : List Request) :
    let now := session files front
    let last := session files (front ++ back)
    (∀ (request : Request) (place : Location), (request.perform now).node? place ≠ now.node? place →
      now.resolve request.plan.output = .ok place ∧ now.IsRegular place ∧
        ∃ content, (request.perform now).node? place = some (.file content (now.permissionsAt place))) ∧
    (∀ place, last.node? place = some .directory ↔ files.node? place = some .directory) ∧
    (∀ place content permissions, now.node? place = some (.file content permissions) →
      (∃ later, last.node? place = some (.file later permissions)) ∧
        (files.node? place = none → permissions = 0o600)) ∧
    ∀ place, (∀ request ∈ back, now.resolve request.plan.output ≠ .ok place) →
      last.node? place = now.node? place := by
  intro now last
  have hlast : last = session now back := session_append files front back
  refine ⟨fun request place => Request.resolve_of_node?_perform_ne,
    fun place => ((evolves_session files (front ++ back)).becomes place).directory_iff, ?_, ?_⟩
  · intro place content permissions hnow
    constructor
    · have hbecomes := (evolves_session now back).becomes place
      rw [hnow] at hbecomes
      rw [hlast]
      exact hbecomes.of_file
    · intro hstart
      have hbecomes := (evolves_session files front).becomes place
      rw [hstart] at hbecomes
      exact (hnow ▸ hbecomes : Node.Becomes none (some (.file content permissions))).permissions_of_made
  · intro place hback
    rw [hlast]
    exact node?_session hback

end EnvSeed.Seeding
