import EnvSeed.Proofs.Files.Evolution

/-!
# File systems that differ in one file

Two file systems that hold the same everywhere but in one file, which both of them have, cannot be told apart
by a path that leads elsewhere: it is followed, read and written alike in both, fault by fault, and writing the
same to both leaves them the same but for that file.
-/

namespace EnvSeed.FileSystem

/-- Both file systems have a file at `place`, and everywhere else they hold the same. -/
structure AgreeOutside (place : Location) (files other : FileSystem) : Prop where
  workingDirectory_eq : other.workingDirectory = files.workingDirectory
  node?_eq : ∀ elsewhere, elsewhere ≠ place → other.node? elsewhere = files.node? elsewhere
  isFile : ∃ content permissions, files.node? place = some (.file content permissions)
  isFile' : ∃ content permissions, other.node? place = some (.file content permissions)

/-- Another file in the place of one is the only difference. -/
theorem agreeOutside_store {files : FileSystem} {place : Location} {content : ByteArray} {permissions : Nat}
    (h : files.node? place = some (.file content permissions)) (later : ByteArray) (permissions' : Nat) :
    files.AgreeOutside place (files.store place (.file later permissions')) := by
  have hne : place ≠ [] := IsRegular.ne_nil (.inr ⟨content, permissions, h⟩)
  exact ⟨rfl, fun elsewhere helse => node?_store_of_ne files helse _, ⟨content, permissions, h⟩,
    ⟨later, permissions', node?_store_self files hne _⟩⟩

namespace AgreeOutside

variable {place : Location} {files other : FileSystem}

/-- Names are followed alike, since neither system has a directory where they differ. -/
theorem walk_eq (h : files.AgreeOutside place other) (here : Location) (names : List ByteArray) :
    other.walk here names = files.walk here names := by
  induction names generalizing here with
  | nil => rfl
  | cons name rest ih =>
    by_cases hplace : here = place
    · subst hplace
      obtain ⟨_, _, hfile⟩ := h.isFile
      obtain ⟨_, _, hfile'⟩ := h.isFile'
      simp only [walk, hfile, hfile']
    · simp only [walk, h.node?_eq here hplace, ih]

/-- A path leads to the same location, or fails alike. -/
theorem resolve_eq (h : files.AgreeOutside place other) (path : Path) : other.resolve path = files.resolve path := by
  simp only [resolve, origin, h.workingDirectory_eq, h.walk_eq]

/-- A write changes the same location, or is refused alike. -/
theorem writeTarget_eq (h : files.AgreeOutside place other) (path : Path) :
    other.writeTarget path = files.writeTarget path := by
  simp only [writeTarget, origin, h.workingDirectory_eq, h.walk_eq]

/-- A path that leads elsewhere opens the same node, or fails alike. -/
theorem open?_eq (h : files.AgreeOutside place other) {path : Path} (hpath : files.resolve path ≠ .ok place) :
    other.open? path = files.open? path := by
  unfold open?
  rw [h.resolve_eq]
  cases hresolve : files.resolve path with
  | error fault => rfl
  | ok elsewhere =>
    have helse : elsewhere ≠ place := by
      intro heq
      exact hpath (heq ▸ hresolve)
    simp only [h.node?_eq elsewhere helse]

/-- A path that leads elsewhere reads as the same text, or fails alike. -/
theorem readText_eq (h : files.AgreeOutside place other) {path : Path} (hpath : files.resolve path ≠ .ok place) :
    other.readText path = files.readText path := by
  simp only [readText, read, h.open?_eq hpath]

/-- The same node stored elsewhere in both makes no difference. -/
theorem store (h : files.AgreeOutside place other) {target : Location} (hroot : target ≠ []) (hne : target ≠ place)
    (node : Node) : (files.store target node).AgreeOutside place (other.store target node) := by
  refine ⟨h.workingDirectory_eq, fun elsewhere helse => ?_, ?_, ?_⟩
  · by_cases htarget : elsewhere = target
    · rw [htarget, node?_store_self files hroot, node?_store_self other hroot]
    · rw [node?_store_of_ne files htarget, node?_store_of_ne other htarget, h.node?_eq elsewhere helse]
  · rw [node?_store_of_ne files hne.symm]
    exact h.isFile
  · rw [node?_store_of_ne other hne.symm]
    exact h.isFile'

/-- Writing the same to a regular location elsewhere makes no difference. -/
theorem tryWrite_of_regular (h : files.AgreeOutside place other) {path : Path} {target : Location}
    (htarget : files.writeTarget path = .ok target) (hregular : files.IsRegular target) (hne : target ≠ place)
    (mode : WriteMode) (data : ByteArray) :
    (files.tryWrite path mode data).files.AgreeOutside place (other.tryWrite path mode data).files := by
  have hsame := h.node?_eq target hne
  have hregular' : other.IsRegular target := by simpa only [IsRegular, hsame] using hregular
  have hcontent : other.contentAt target = files.contentAt target := by simp only [contentAt, hsame]
  have hpermissions : other.permissionsAt target = files.permissionsAt target := by
    simp only [permissionsAt, hsame]
  rw [FileSystem.tryWrite_of_regular mode data htarget hregular,
    FileSystem.tryWrite_of_regular mode data ((h.writeTarget_eq path).trans htarget) hregular', hcontent,
    hpermissions]
  exact h.store hregular.ne_nil hne _

/-- The same write elsewhere goes alike in both, and leaves them with the same difference. -/
theorem tryWrite (h : files.AgreeOutside place other) {path : Path} (hpath : files.resolve path ≠ .ok place)
    (mode : WriteMode) (data : ByteArray) :
    (other.tryWrite path mode data).result = (files.tryWrite path mode data).result ∧
      (files.tryWrite path mode data).files.AgreeOutside place (other.tryWrite path mode data).files := by
  have hne {target : Location} (htarget : files.writeTarget path = .ok target) : target ≠ place := by
    intro heq
    exact hpath (heq ▸ (resolve_of_writeTarget htarget).1)
  have hresult : (other.tryWrite path mode data).result = (files.tryWrite path mode data).result :=
    tryWrite_result_of_target (h.writeTarget_eq path) (fun target htarget => h.node?_eq target (hne htarget)) mode data
  refine ⟨hresult, ?_⟩
  obtain ⟨fault, hwrite⟩ | ⟨target, htarget, hregular, -⟩ | ⟨target, device, htarget, hnode, hwrite⟩ :=
    files.tryWrite_cases path mode data
  · rw [hwrite] at hresult
    rw [hwrite, tryWrite_of_refused hresult]
    exact h
  · exact h.tryWrite_of_regular htarget hregular (hne htarget) mode data
  · have hnode' := (h.node?_eq target (hne htarget)).trans hnode
    rw [hwrite, tryWrite_of_device mode data ((h.writeTarget_eq path).trans htarget) hnode']
    exact h

/-- After the same write elsewhere they still differ in that one file alone, which the path of the write does
not lead to, and which neither write has touched. -/
theorem of_tryWrite (h : files.AgreeOutside place other) {path : Path} {mode : WriteMode} {data : ByteArray}
    {after after' : FileSystem} (hpath : files.resolve path ≠ .ok place)
    (hwrite : files.tryWrite path mode data = ⟨.ok (), after⟩)
    (hwrite' : other.tryWrite path mode data = ⟨.ok (), after'⟩) :
    after.AgreeOutside place after' ∧ after.resolve path ≠ .ok place ∧
      after.node? place = files.node? place ∧ after'.node? place = other.node? place := by
  have hpath' : other.resolve path ≠ .ok place := by rwa [h.resolve_eq]
  have hagree := (h.tryWrite hpath mode data).2
  have hevolves := files.evolves_tryWrite path mode data
  have hkept := files.node?_tryWrite_of_resolve_ne path mode data hpath
  have hkept' := other.node?_tryWrite_of_resolve_ne path mode data hpath'
  rw [hwrite, hwrite'] at hagree
  rw [hwrite] at hevolves hkept
  rw [hwrite'] at hkept'
  exact ⟨hagree, fun hresolve => hpath (hevolves.resolve_iff.mp hresolve), hkept, hkept'⟩

end AgreeOutside

end EnvSeed.FileSystem
