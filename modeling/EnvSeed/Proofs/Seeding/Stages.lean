import EnvSeed.Proofs.Files.Following
import EnvSeed.Seeding.Run

/-!
# The stages of a run

A run has four ways to go: no key pair, no template, a refused write, or a report. Each of them is
given here with everything it leaves behind, so that what holds of every run is shown by going through
the four and never by opening the run itself.
-/

namespace EnvSeed

/-- A key pair is read from nothing but the text of its file. -/
theorem KeyFile.load_congr {files other : FileSystem} {path : Path}
    (h : other.readText path = files.readText path) : load other path = load files path := by
  simp only [load, h]

/-- A template is nothing but the text of its file. -/
theorem readTemplate_congr {files other : FileSystem} {path : Path}
    (h : other.readText path = files.readText path) : readTemplate other path = readTemplate files path := by
  simp only [readTemplate, h]

/-- The template that is read at a path is the text there. -/
theorem readTemplate_eq_ok_iff {files : FileSystem} {path : Path} {template : String} :
    readTemplate files path = .ok template ↔ files.readText path = .ok template := by
  unfold readTemplate
  cases files.readText path <;> simp

namespace Seeding

/-- What a run has in hand when it comes to write. -/
structure Draft where
  keys : KeyPair
  template : String
  secret : Secret

namespace Draft

/-- The template with the secret in it. -/
def expansion (plan : Plan) (draft : Draft) : Expansion :=
  Expansion.of draft.template plan.marker draft.secret.value

/-- The bytes to be written. -/
def data (plan : Plan) (draft : Draft) : ByteArray :=
  (draft.expansion plan).content.toUTF8

/-- The events up to the write. -/
def events (plan : Plan) (draft : Draft) : List Event :=
  [keysLoaded plan, secretResolved draft.secret.source] ++ markerEvents plan (draft.expansion plan)

/-- The draft is what the files hold at the paths of the plan, with the secret in use. -/
structure ReadFrom (files : FileSystem) (plan : Plan) (override : Option String) (draft : Draft) : Prop where
  keys : KeyFile.load files plan.keyFile = .ok draft.keys
  template : readTemplate files plan.template = .ok draft.template
  secret : Secret.choose draft.keys plan.keyFile plan.overrideVar override = draft.secret

/-- The template of a draft is the text at its path. -/
theorem ReadFrom.readText_template {files : FileSystem} {plan : Plan} {override : Option String} {draft : Draft}
    (h : draft.ReadFrom files plan override) : files.readText plan.template = .ok draft.template :=
  readTemplate_eq_ok_iff.mp h.template

/-- The key file of a draft has a text. -/
theorem ReadFrom.readText_keyFile {files : FileSystem} {plan : Plan} {override : Option String} {draft : Draft}
    (h : draft.ReadFrom files plan override) : ∃ text, files.readText plan.keyFile = .ok text := by
  have hkeys := h.keys
  unfold KeyFile.load at hkeys
  split at hkeys
  · cases hkeys
  · next text hread => exact ⟨text, hread⟩

/-- Files whose key file and template read the same give the same draft. -/
theorem ReadFrom.congr {files other : FileSystem} {plan : Plan} {override : Option String} {draft : Draft}
    (h : draft.ReadFrom files plan override)
    (hsame : ∀ path ∈ [plan.keyFile, plan.template], other.readText path = files.readText path) :
    draft.ReadFrom other plan override := by
  have hkeys := KeyFile.load_congr (hsame plan.keyFile (by simp))
  have htemplate := readTemplate_congr (hsame plan.template (by simp))
  exact ⟨hkeys.trans h.keys, htemplate.trans h.template, h.secret⟩

end Draft

/-- A working directory with a key file and a template, at the paths of the default plan. -/
def sampleFiles (template : String) : FileSystem :=
  let keyFile := "Public Key (Address): a\nPrivate Key: b\n".toUTF8
  (FileSystem.fresh.store ["tmp".toUTF8, "work".toUTF8, "keys.txt".toUTF8] (.file keyFile 0o644)).store
    ["tmp".toUTF8, "work".toUTF8, ".env.sample".toUTF8] (.file template.toUTF8 0o644)

/-- The key file of the default plan. -/
def sampleKeyFile : Location := ["tmp".toUTF8, "work".toUTF8, "keys.txt".toUTF8]

/-- The output of the default plan. -/
def sampleOutput : Location := ["tmp".toUTF8, "work".toUTF8, ".env".toUTF8]

variable (environment : Environment) (files : FileSystem) (plan : Plan) (override : Option String)

/-- The four ways of a run, each with its result, its events and the files after it. -/
inductive Course : Seeding → Prop
  | noKeys {failure : Failure} (hkeys : KeyFile.load files plan.keyFile = .error failure) :
      Course ⟨.error failure, [], files⟩
  | noTemplate {keys : KeyPair} {failure : Failure} (hkeys : KeyFile.load files plan.keyFile = .ok keys)
      (htemplate : readTemplate files plan.template = .error failure) :
      Course ⟨.error failure, [keysLoaded plan,
        secretResolved (Secret.choose keys plan.keyFile plan.overrideVar override).source], files⟩
  | refused {draft : Draft} {fault : WriteFault} (hread : draft.ReadFrom files plan override)
      (hwrite : files.tryWrite plan.output plan.writeMode (draft.data plan) = ⟨.error fault, files⟩) :
      Course ⟨.error (.ofWrite plan.output fault), draft.events plan, files⟩
  | written {draft : Draft} {after : FileSystem} (hread : draft.ReadFrom files plan override)
      (hwrite : files.tryWrite plan.output plan.writeMode (draft.data plan) = ⟨.ok (), after⟩) :
      Course ⟨.ok (report plan draft.keys draft.secret (draft.expansion plan) (draft.data plan).size
          (check environment after plan).1),
        draft.events plan ++ outputWritten plan (draft.data plan).size :: (check environment after plan).2, after⟩

variable {environment files plan override}

/-- A marker with a key has the output inspected for it. -/
theorem summary_check {key : String} (hkey : checkedKey? plan.marker = some key) :
    (check environment files plan).1 = (Dotenv.inspect environment files plan.output key).1 := by
  rw [check, hkey]

/-- A run whose write is refused says so, and keeps the files that the write left. -/
theorem run_of_refused {draft : Draft} {fault : WriteFault} {after : FileSystem}
    (hread : draft.ReadFrom files plan override)
    (hwrite : files.tryWrite plan.output plan.writeMode (draft.data plan) = ⟨.error fault, after⟩) :
    run environment files plan override =
      ⟨.error (.ofWrite plan.output fault), draft.events plan, after⟩ := by
  rw [Draft.data, Draft.expansion] at hwrite
  simp only [run, hread.keys, hread.template, hread.secret, hwrite]
  rfl

/-- A run whose write goes well checks what was written and brings a report. -/
theorem run_of_written {draft : Draft} {after : FileSystem} (hread : draft.ReadFrom files plan override)
    (hwrite : files.tryWrite plan.output plan.writeMode (draft.data plan) = ⟨.ok (), after⟩) :
    run environment files plan override =
      ⟨.ok (report plan draft.keys draft.secret (draft.expansion plan) (draft.data plan).size
          (check environment after plan).1),
        draft.events plan ++ outputWritten plan (draft.data plan).size :: (check environment after plan).2,
        after⟩ := by
  rw [Draft.data, Draft.expansion] at hwrite
  simp only [run, hread.keys, hread.template, hread.secret, hwrite]
  rfl

/-- A run with a draft on hand for a regular output brings a report. -/
theorem isOk_of_regular {draft : Draft} {place : Location} (hread : draft.ReadFrom files plan override)
    (htarget : files.writeTarget plan.output = .ok place) (hregular : files.IsRegular place) :
    (run environment files plan override).result.isOk = true := by
  rw [run_of_written hread (FileSystem.tryWrite_of_regular plan.writeMode (draft.data plan) htarget hregular)]
  rfl

variable (environment files plan override)

/-- Every run goes one of the four ways. -/
theorem course_run : Course environment files plan override (run environment files plan override) := by
  cases hkeys : KeyFile.load files plan.keyFile with
  | error failure =>
    have hrun : run environment files plan override = ⟨.error failure, [], files⟩ := by simp [run, hkeys]
    exact hrun ▸ .noKeys hkeys
  | ok keys =>
    cases htemplate : readTemplate files plan.template with
    | error failure =>
      have hrun : run environment files plan override = ⟨.error failure, [keysLoaded plan,
          secretResolved (Secret.choose keys plan.keyFile plan.overrideVar override).source], files⟩ := by
        simp [run, hkeys, htemplate]
      exact hrun ▸ .noTemplate hkeys htemplate
    | ok template =>
      have hread : Draft.ReadFrom files plan override
          ⟨keys, template, Secret.choose keys plan.keyFile plan.overrideVar override⟩ := ⟨hkeys, htemplate, rfl⟩
      obtain ⟨fault, hwrite⟩ | ⟨_, _, _, hwrite⟩ | ⟨_, _, _, _, hwrite⟩ :=
        files.tryWrite_cases plan.output plan.writeMode (Draft.data plan _)
      · exact run_of_refused hread hwrite ▸ .refused hread hwrite
      · exact run_of_written hread hwrite ▸ .written hread hwrite
      · exact run_of_written hread hwrite ▸ .written hread hwrite

variable {environment files plan override}

/-- A run that brings a report has written its draft, and reports on it. -/
theorem written_of_ok {report : Report} (h : (run environment files plan override).result = .ok report) :
    ∃ draft : Draft, draft.ReadFrom files plan override ∧
      files.tryWrite plan.output plan.writeMode (draft.data plan) =
        ⟨.ok (), (run environment files plan override).files⟩ ∧
      report = Seeding.report plan draft.keys draft.secret (draft.expansion plan) (draft.data plan).size
        (check environment (run environment files plan override).files plan).1 := by
  have hcourse := course_run environment files plan override
  generalize run environment files plan override = seeding at h hcourse ⊢
  cases hcourse with
  | noKeys => cases h
  | noTemplate => cases h
  | refused => cases h
  | written hread hwrite => exact ⟨_, hread, hwrite, (Except.ok.inj h).symm⟩

end Seeding

end EnvSeed
