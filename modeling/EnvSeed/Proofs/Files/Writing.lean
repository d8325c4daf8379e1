import EnvSeed.FileSystem.Access

/-!
# What a write does

The two steps of a write taken together: a write that is refused leaves the files as they were, and one
that goes well changes at most the regular file that its path leads to. No write makes or takes away a
directory, so a path that led somewhere before still leads there, and reading the path of a write gives
what was written.
-/

namespace EnvSeed

/-- A result that has a value is that value. -/
theorem eq_ok_of_toOption {ε α : Type} {result : Except ε α} {value : α} (h : result.toOption = some value) :
    result = .ok value := by
  cases result with
  | error fault => cases h
  | ok found => exact congrArg Except.ok (Option.some.inj h)

namespace FileSystem

/-- A location with a regular file or nothing yet. -/
def IsRegular (files : FileSystem) (place : Location) : Prop :=
  files.node? place = none ∨ ∃ content permissions, files.node? place = some (.file content permissions)

/-- The content of the file at a location. Where there is no file it is empty. -/
def contentAt (files : FileSystem) (place : Location) : ByteArray :=
  match files.node? place with
  | some (.file content _) => content
  | _ => .empty

/-- The permissions that the file at a location has, or gets when a write makes it. -/
def permissionsAt (files : FileSystem) (place : Location) : Nat :=
  match files.node? place with
  | some (.file _ permissions) => permissions
  | _ => createdMode

/-- A regular location is not the root. -/
theorem IsRegular.ne_nil {files : FileSystem} {place : Location} (h : files.IsRegular place) : place ≠ [] := by
  intro heq
  subst heq
  obtain h | ⟨_, _, h⟩ := h <;> cases h

/-- A regular location is no directory. -/
theorem IsRegular.not_directory {files : FileSystem} {place : Location} (h : files.IsRegular place) :
    files.node? place ≠ some .directory := by
  obtain h | ⟨_, _, h⟩ := h <;> simp [h]

/-- The content of a file is the one that it has. -/
theorem contentAt_of_file {files : FileSystem} {place : Location} {content : ByteArray} {permissions : Nat}
    (h : files.node? place = some (.file content permissions)) : files.contentAt place = content := by
  rw [contentAt, h]

/-- A file that is stored has the content that was stored. -/
theorem contentAt_store_self (files : FileSystem) {place : Location} (hplace : place ≠ []) (content : ByteArray)
    (permissions : Nat) : (files.store place (.file content permissions)).contentAt place = content :=
  contentAt_of_file (node?_store_self files hplace _)

/-- Opening a regular location keeps of its content what the mode leaves. -/
theorem openForWrite_of_regular {files : FileSystem} {path : Path} {place : Location} (mode : WriteMode)
    (htarget : files.writeTarget path = .ok place) (hregular : files.IsRegular place) :
    files.openForWrite path mode = .ok (place,
      files.store place (.file (mode.kept (files.contentAt place)) (files.permissionsAt place))) := by
  obtain hnode | ⟨content, permissions, hnode⟩ := hregular
  · cases mode <;> simp [openForWrite, htarget, contentAt, permissionsAt, hnode, WriteMode.kept]
  · simp [openForWrite, htarget, contentAt, permissionsAt, hnode]

/-- A write to a regular location goes well and gives it the content that the mode says. -/
theorem tryWrite_of_regular {files : FileSystem} {path : Path} {place : Location} (mode : WriteMode)
    (data : ByteArray) (htarget : files.writeTarget path = .ok place) (hregular : files.IsRegular place) :
    files.tryWrite path mode data = ⟨.ok (),
      files.store place (.file (mode.apply (files.contentAt place) data) (files.permissionsAt place))⟩ := by
  have hextend : (files.store place
        (.file (mode.kept (files.contentAt place)) (files.permissionsAt place))).extend place data =
      .ok (files.store place
        (.file (mode.apply (files.contentAt place) data) (files.permissionsAt place))) := by
    simp [extend, node?_store_self _ hregular.ne_nil, store_store, mode.kept_append]
  simp [tryWrite, openForWrite_of_regular mode htarget hregular, hextend]

/-- After a write to a regular location a file is there, with the content that the mode says. -/
theorem node?_of_tryWrite {files after : FileSystem} {path : Path} {place : Location} {mode : WriteMode}
    {data : ByteArray} (hwrite : files.tryWrite path mode data = ⟨.ok (), after⟩)
    (htarget : files.writeTarget path = .ok place) (hregular : files.IsRegular place) :
    after.node? place = some (.file (mode.apply (files.contentAt place) data) (files.permissionsAt place)) := by
  rw [tryWrite_of_regular mode data htarget hregular] at hwrite
  obtain rfl := congrArg WriteAttempt.files hwrite
  exact node?_store_self files hregular.ne_nil _

/-- A write to a device is refused only for want of space, and leaves the files as they were. -/
theorem tryWrite_of_device {files : FileSystem} {path : Path} {place : Location} {device : Device}
    (mode : WriteMode) (data : ByteArray)
    (htarget : files.writeTarget path = .ok place) (hnode : files.node? place = some (.device device)) :
    files.tryWrite path mode data =
      ⟨if device = .full ∧ ¬data.isEmpty then .error (.writing .noSpace) else .ok (), files⟩ := by
  have hopen : files.openForWrite path mode = .ok (place, files) := by
    simp [openForWrite, htarget, hnode]
  cases device with
  | null => simp [tryWrite, hopen, extend, hnode]
  | full => by_cases hdata : data.isEmpty <;> simp [tryWrite, hopen, extend, hnode, hdata]

/-- A write is refused without a trace, changes one regular file, or goes to a device. -/
theorem tryWrite_cases (files : FileSystem) (path : Path) (mode : WriteMode) (data : ByteArray) :
    (∃ fault, files.tryWrite path mode data = ⟨.error fault, files⟩) ∨
    (∃ place, files.writeTarget path = .ok place ∧ files.IsRegular place ∧
      files.tryWrite path mode data = ⟨.ok (), files.store place
        (.file (mode.apply (files.contentAt place) data) (files.permissionsAt place))⟩) ∨
    ∃ place device, files.writeTarget path = .ok place ∧ files.node? place = some (.device device) ∧
      files.tryWrite path mode data = ⟨.ok (), files⟩ := by
  cases htarget : files.writeTarget path with
  | error fault => exact .inl ⟨.opening fault, by simp [tryWrite, openForWrite, htarget]⟩
  | ok place =>
    cases hnode : files.node? place with
    | none =>
      have hregular : files.IsRegular place := .inl hnode
      exact .inr (.inl ⟨place, rfl, hregular, tryWrite_of_regular mode data htarget hregular⟩)
    | some node =>
      cases node with
      | file content permissions =>
        have hregular : files.IsRegular place := .inr ⟨content, permissions, hnode⟩
        exact .inr (.inl ⟨place, rfl, hregular, tryWrite_of_regular mode data htarget hregular⟩)
      | directory => exact .inl ⟨.opening .isADirectory, by simp [tryWrite, openForWrite, htarget, hnode]⟩
      | device device =>
        have hwrite := tryWrite_of_device mode data htarget hnode
        by_cases hrefused : device = .full ∧ ¬data.isEmpty
        · exact .inl ⟨.writing .noSpace, by rw [hwrite, if_pos hrefused]⟩
        · exact .inr (.inr ⟨place, device, rfl, hnode, by rw [hwrite, if_neg hrefused]⟩)

/-- How a write goes depends on its data only in whether there is any. -/
theorem tryWrite_result_congr (files : FileSystem) (path : Path) (mode : WriteMode) {data other : ByteArray}
    (h : data.isEmpty = other.isEmpty) :
    (files.tryWrite path mode data).result = (files.tryWrite path mode other).result := by
  unfold tryWrite
  cases files.openForWrite path mode with
  | error fault => rfl
  | ok opened =>
    obtain ⟨place, opened⟩ := opened
    simp only [extend, h]
    cases opened.node? place with
    | none => rfl
    | some node =>
      cases node with
      | file content permissions => rfl
      | directory => rfl
      | device device =>
        cases device with
        | null => rfl
        | full => cases other.isEmpty <;> rfl

/-- How a write goes depends on nothing but where it leads and what is there. -/
theorem tryWrite_result_of_target {files other : FileSystem} {path : Path}
    (htarget : other.writeTarget path = files.writeTarget path)
    (hnode : ∀ place, files.writeTarget path = .ok place → other.node? place = files.node? place) (mode : WriteMode)
    (data : ByteArray) : (other.tryWrite path mode data).result = (files.tryWrite path mode data).result := by
  cases hplace : files.writeTarget path with
  | error fault => simp only [tryWrite, openForWrite, htarget, hplace]
  | ok place =>
    have hsame := hnode place hplace
    have hplace' := htarget.trans hplace
    cases hthere : files.node? place with
    | none =>
      have hthere' := hsame.trans hthere
      rw [tryWrite_of_regular mode data hplace (.inl hthere), tryWrite_of_regular mode data hplace' (.inl hthere')]
    | some node =>
      have hthere' := hsame.trans hthere
      cases node with
      | file content permissions =>
        rw [tryWrite_of_regular mode data hplace (.inr ⟨content, permissions, hthere⟩),
          tryWrite_of_regular mode data hplace' (.inr ⟨content, permissions, hthere'⟩)]
      | directory => simp only [tryWrite, openForWrite, hplace, hplace', hthere, hthere']
      | device device =>
        rw [tryWrite_of_device mode data hplace hthere, tryWrite_of_device mode data hplace' hthere']

/-- A write that is not refused is told by the files it leaves. -/
theorem tryWrite_of_accepted {files : FileSystem} {path : Path} {mode : WriteMode} {data : ByteArray}
    (h : (files.tryWrite path mode data).result = .ok ()) :
    files.tryWrite path mode data = ⟨.ok (), (files.tryWrite path mode data).files⟩ := by
  rw [← h]

/-- A refused write leaves the files as they were. -/
theorem tryWrite_of_refused {files : FileSystem} {path : Path} {mode : WriteMode} {data : ByteArray}
    {fault : WriteFault} (h : (files.tryWrite path mode data).result = .error fault) :
    files.tryWrite path mode data = ⟨.error fault, files⟩ := by
  obtain ⟨_, hwrite⟩ | ⟨_, _, _, hwrite⟩ | ⟨_, _, _, _, hwrite⟩ := files.tryWrite_cases path mode data <;>
    rw [hwrite] at h ⊢
  · exact congrArg (WriteAttempt.mk · files) h
  · cases h
  · cases h

end FileSystem

end EnvSeed
