import EnvSeed.Proofs.Seeding.Atomicity

/-!
# Turns

A turn is one run with everything it finds. What it does to its output is said by what it writes and by
whether that takes the place of what was there; a turn that fails writes nothing. What a turn writes
depends on the files as they are just before it, also where the output is its own template or key file.
-/

namespace EnvSeed.Seeding

/-- One run, with the files it finds. -/
structure Turn where
  environment : Environment
  files : FileSystem
  plan : Plan
  override : Option String

namespace Turn

/-- The run of a turn. -/
def seeding (turn : Turn) : Seeding :=
  run turn.environment turn.files turn.plan turn.override

/-- The run brought a report. -/
def succeeded (turn : Turn) : Bool :=
  turn.seeding.result.isOk

/-- The run brought a report and put its text in the place of what was there. -/
def replaced (turn : Turn) : Bool :=
  turn.succeeded && turn.plan.writeMode = .replace

/-- What a run that succeeds writes: the template as it is before the run, with the secret in use. -/
def written (turn : Turn) : ByteArray :=
  match turn.succeeded, KeyFile.load turn.files turn.plan.keyFile, readTemplate turn.files turn.plan.template with
  | true, .ok keys, .ok template =>
    let secret := Secret.choose keys turn.plan.keyFile turn.plan.overrideVar turn.override
    (Expansion.of template turn.plan.marker secret.value).content.toUTF8
  | _, _, _ => .empty

/-- What was written by turns, in order. -/
def total (turns : List Turn) : ByteArray :=
  turns.foldr (fun turn rest => turn.written ++ rest) .empty

/-- The turns from the last replacement on, or all of them if there is none. -/
def sinceReplacement : List Turn → List Turn
  | [] => []
  | turn :: rest => if rest.any replaced then sinceReplacement rest else turn :: rest

/-- What is written by turns one after the other is written in that order. -/
theorem total_append (turns more : List Turn) : total (turns ++ more) = total turns ++ total more := by
  induction turns with
  | nil => simp [total]
  | cons turn rest ih =>
    have hstep : total (turn :: (rest ++ more)) = turn.written ++ total (rest ++ more) := rfl
    rw [List.cons_append, hstep, ih, ← ByteArray.append_assoc]
    rfl

/-- A replacement starts over, and any other turn comes after those that count already. -/
theorem sinceReplacement_append (turns : List Turn) (turn : Turn) :
    sinceReplacement (turns ++ [turn]) =
      if turn.replaced then [turn] else sinceReplacement turns ++ [turn] := by
  induction turns with
  | nil => simp [sinceReplacement]
  | cons first rest ih =>
    by_cases hturn : turn.replaced
    · simp [sinceReplacement, hturn, ih]
    · by_cases hrest : rest.any replaced
      · simp only [List.cons_append, sinceReplacement, List.any_append, hrest, Bool.true_or, if_true, ih, if_neg hturn]
      · simp [sinceReplacement, hturn, hrest]

/-- A draft that is written is what the turn writes. -/
theorem written_eq {turn : Turn} {draft : Draft} (hread : draft.ReadFrom turn.files turn.plan turn.override)
    (hok : turn.succeeded = true) : turn.written = draft.data turn.plan := by
  simp only [written, hok, hread.keys, hread.template, hread.secret]
  rfl

/-- A turn that fails writes nothing. -/
theorem written_of_failed {turn : Turn} (h : turn.succeeded = false) : turn.written = .empty := by
  simp only [written, h]

/-- A turn that fails leaves the files as they were. -/
theorem files_of_failed {turn : Turn} (h : turn.succeeded = false) : turn.seeding.files = turn.files := by
  unfold succeeded at h
  cases hresult : turn.seeding.result with
  | error failure => exact files_of_error hresult
  | ok report => simp [hresult, Except.isOk, Except.toBool] at h

/-- A turn that succeeds has read a draft and written it. -/
theorem draft_of_succeeded {turn : Turn} (h : turn.succeeded = true) :
    ∃ draft : Draft, draft.ReadFrom turn.files turn.plan turn.override ∧
      turn.files.tryWrite turn.plan.output turn.plan.writeMode (draft.data turn.plan) =
        ⟨.ok (), turn.seeding.files⟩ := by
  unfold succeeded at h
  cases hresult : turn.seeding.result with
  | error failure => simp [hresult, Except.isOk, Except.toBool] at h
  | ok report =>
    obtain ⟨draft, hread, hwrite, -⟩ := written_of_ok hresult
    exact ⟨draft, hread, hwrite⟩

/-- A run that succeeds wrote its template as it was, with the secret in use, and reports its size. -/
theorem expansion_written {turn : Turn} {report : Report} (h : turn.seeding.result = .ok report) :
    ∃ keys template, KeyFile.load turn.files turn.plan.keyFile = .ok keys ∧
      turn.files.readText turn.plan.template = .ok template ∧
      let secret := Secret.choose keys turn.plan.keyFile turn.plan.overrideVar turn.override
      let text := (Expansion.of template turn.plan.marker secret.value).content
      turn.written = text.toUTF8 ∧ report.bytesWritten = text.utf8ByteSize := by
  obtain ⟨draft, hread, -, rfl⟩ := written_of_ok h
  have hok : turn.succeeded = true := by simp [succeeded, h, Except.isOk, Except.toBool]
  refine ⟨draft.keys, draft.template, hread.keys, hread.readText_template, ?_, ?_⟩
  · rw [written_eq hread hok, hread.secret]
    rfl
  · rw [hread.secret]
    rfl

/-- A turn takes no directory away. -/
theorem keepsDirectories (turn : Turn) : turn.files.KeepsDirectories turn.seeding.files := by
  cases h : turn.succeeded with
  | false => exact files_of_failed h ▸ .refl turn.files
  | true =>
    obtain ⟨draft, -, hwrite⟩ := draft_of_succeeded h
    have hkeeps := turn.files.keepsDirectories_tryWrite turn.plan.output turn.plan.writeMode (draft.data turn.plan)
    rwa [hwrite] at hkeeps

/-- A turn that succeeds changes nothing but its output. -/
theorem node?_after {turn : Turn} {place other : Location}
    (htarget : turn.files.writeTarget turn.plan.output = .ok place) (hregular : turn.files.IsRegular place)
    (hne : other ≠ place) : turn.seeding.files.node? other = turn.files.node? other := by
  cases h : turn.succeeded with
  | false => rw [files_of_failed h]
  | true =>
    obtain ⟨draft, -, hwrite⟩ := draft_of_succeeded h
    rw [FileSystem.tryWrite_of_regular _ _ htarget hregular] at hwrite
    have hfiles : _ = turn.seeding.files := congrArg WriteAttempt.files hwrite
    rw [← hfiles]
    exact FileSystem.node?_store_of_ne turn.files hne _

/-- A file that the output does not name reads after a turn as it did before. -/
theorem readText_after {turn : Turn} {place : Location} {path : Path} {text : String}
    (htarget : turn.files.writeTarget turn.plan.output = .ok place) (hregular : turn.files.IsRegular place)
    (hne : turn.files.resolve path ≠ .ok place) (hread : turn.files.readText path = .ok text) :
    turn.seeding.files.readText path = .ok text := by
  cases hresolve : turn.files.resolve path with
  | error fault => simp [FileSystem.readText, FileSystem.read, FileSystem.open?, hresolve] at hread
  | ok other =>
    have hother : other ≠ place := by
      intro heq
      exact hne (heq ▸ hresolve)
    rw [turn.keepsDirectories.readText_eq hresolve (node?_after htarget hregular hother), hread]

/-- A turn gives a regular output the content that the mode says, and leaves it regular. -/
theorem output_after {turn : Turn} {place : Location}
    (htarget : turn.files.writeTarget turn.plan.output = .ok place) (hregular : turn.files.IsRegular place) :
    turn.seeding.files.IsRegular place ∧
      turn.seeding.files.contentAt place =
        if turn.replaced then turn.written else turn.files.contentAt place ++ turn.written := by
  cases h : turn.succeeded with
  | false =>
    rw [files_of_failed h, written_of_failed h]
    exact ⟨hregular, by simp [replaced, h]⟩
  | true =>
    obtain ⟨draft, hread, hwrite⟩ := draft_of_succeeded h
    have hnode := FileSystem.node?_of_tryWrite hwrite htarget hregular
    rw [FileSystem.contentAt_of_file hnode, written_eq hread h]
    refine ⟨.inr ⟨_, _, hnode⟩, ?_⟩
    cases hmode : turn.plan.writeMode <;> simp [replaced, h, hmode, WriteMode.apply]

/-- A draft on hand for a regular output is a turn that succeeds. -/
theorem succeeded_of_regular {turn : Turn} {draft : Draft} {place : Location}
    (hread : draft.ReadFrom turn.files turn.plan turn.override)
    (htarget : turn.files.writeTarget turn.plan.output = .ok place) (hregular : turn.files.IsRegular place) :
    turn.succeeded = true :=
  isOk_of_regular hread htarget hregular

/-- A replacement done again with the same inputs, none of them the output, leaves the output as it was. -/
theorem replaced_again {turn again : Turn} {place : Location}
    (htarget : turn.files.writeTarget turn.plan.output = .ok place) (hregular : turn.files.IsRegular place)
    (hturn : turn.replaced = true) (htarget' : again.files.writeTarget again.plan.output = .ok place)
    (hsame : again.files.node? place = turn.seeding.files.node? place)
    (hplan : again.plan = turn.plan) (hoverride : again.override = turn.override)
    (hinputs : ∀ path ∈ [turn.plan.keyFile, turn.plan.template], turn.files.resolve path ≠ .ok place ∧
      again.files.readText path = turn.seeding.files.readText path) :
    again.replaced = true ∧ again.seeding.files.contentAt place = turn.seeding.files.contentAt place := by
  obtain ⟨hok, hmode⟩ : turn.succeeded = true ∧ decide (turn.plan.writeMode = .replace) = true := by
    simpa only [replaced, Bool.and_eq_true] using hturn
  obtain ⟨draft, hread, -⟩ := draft_of_succeeded hok
  obtain ⟨keyText, hkeyText⟩ := hread.readText_keyFile
  have hunchanged : ∀ path ∈ [turn.plan.keyFile, turn.plan.template],
      again.files.readText path = turn.files.readText path := by
    intro path hpath
    obtain ⟨hne, hagain⟩ := hinputs path hpath
    obtain ⟨text, htext⟩ : ∃ text, turn.files.readText path = .ok text := by
      obtain rfl | rfl : path = turn.plan.keyFile ∨ path = turn.plan.template := by simpa using hpath
      · exact ⟨keyText, hkeyText⟩
      · exact ⟨draft.template, hread.readText_template⟩
    rw [hagain, readText_after htarget hregular hne htext, htext]
  have hread' : draft.ReadFrom again.files again.plan again.override := by
    rw [hplan, hoverride]
    exact hread.congr hunchanged
  have hregular' : again.files.IsRegular place := by
    simpa only [FileSystem.IsRegular, hsame] using (output_after htarget hregular).1
  have hok' : again.succeeded = true := succeeded_of_regular hread' htarget' hregular'
  have hagain : again.replaced = true := by simp only [replaced, hok', hplan, hmode, Bool.and_self]
  refine ⟨hagain, ?_⟩
  rw [(output_after htarget' hregular').2, (output_after htarget hregular).2, if_pos hagain, if_pos hturn,
    written_eq hread' hok', written_eq hread hok, hplan]

end Turn

end EnvSeed.Seeding
