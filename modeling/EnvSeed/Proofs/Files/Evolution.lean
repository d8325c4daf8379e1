import EnvSeed.Proofs.Files.Following

/-!
# What becomes of files

A location keeps what it has, or the file at it is given another content, or a file is made where nothing
was. Writes do nothing else, however many follow each other: directories and devices stay where they are and
no more come, no file goes away, and of its permissions a file keeps those that it had first.
-/

namespace EnvSeed

/-- What can become of a location: it is left alone, its file is rewritten under the same permissions, or a
file is made that its owner alone may use. -/
inductive Node.Becomes : Option Node → Option Node → Prop
  | kept (node : Option Node) : Becomes node node
  | rewritten (old new : ByteArray) (permissions : Nat) :
      Becomes (some (.file old permissions)) (some (.file new permissions))
  | made (content : ByteArray) : Becomes none (some (.file content createdMode))

namespace Node.Becomes

/-- One change after the other is a change of the same kind. -/
theorem trans {before middle after : Option Node} (h : Becomes before middle) (h' : Becomes middle after) :
    Becomes before after := by
  cases h with
  | kept => exact h'
  | rewritten old new permissions =>
    cases h' with
    | kept => exact .rewritten old new permissions
    | rewritten _ newer => exact .rewritten old newer permissions
  | made content =>
    cases h' with
    | kept => exact .made content
    | rewritten _ newer => exact .made newer

/-- A file stays a file and keeps its permissions. -/
theorem of_file {content : ByteArray} {permissions : Nat} {after : Option Node}
    (h : Becomes (some (.file content permissions)) after) :
    ∃ later, after = some (.file later permissions) := by
  cases h with
  | kept => exact ⟨content, rfl⟩
  | rewritten _ new => exact ⟨new, rfl⟩

/-- A file where nothing was is for its owner alone. -/
theorem permissions_of_made {content : ByteArray} {permissions : Nat}
    (h : Becomes none (some (.file content permissions))) : permissions = createdMode := by
  cases h with
  | made => rfl

/-- Directories are those that were there before. -/
theorem directory_iff {before after : Option Node} (h : Becomes before after) :
    after = some .directory ↔ before = some .directory := by
  cases h with
  | kept => rfl
  | rewritten => simp
  | made => simp

end Node.Becomes

namespace FileSystem

/-- The file system `after` comes from `before` by changes of that kind. -/
structure Evolves (before after : FileSystem) : Prop where
  workingDirectory_eq : after.workingDirectory = before.workingDirectory
  becomes : ∀ place, Node.Becomes (before.node? place) (after.node? place)

namespace Evolves

variable {before middle after : FileSystem}

/-- A file system comes from itself. -/
theorem refl (files : FileSystem) : files.Evolves files :=
  ⟨rfl, fun place => .kept (files.node? place)⟩

/-- Changes that follow each other are changes. -/
theorem trans (h : before.Evolves middle) (h' : middle.Evolves after) : before.Evolves after :=
  ⟨h'.workingDirectory_eq.trans h.workingDirectory_eq, fun place => (h.becomes place).trans (h'.becomes place)⟩

/-- A path leads to a location exactly if it led there before. -/
theorem resolve_iff (h : before.Evolves after) {path : Path} {place : Location} :
    after.resolve path = .ok place ↔ before.resolve path = .ok place := by
  have hkeeps : before.KeepsDirectories after :=
    ⟨h.workingDirectory_eq, fun other => (h.becomes other).directory_iff.mpr⟩
  have hback : after.KeepsDirectories before :=
    ⟨h.workingDirectory_eq.symm, fun other => (h.becomes other).directory_iff.mp⟩
  exact ⟨hback.resolve_eq, hkeeps.resolve_eq⟩

end Evolves

/-- A file that is stored at a regular location, under the permissions due there, rewrites or makes it. -/
theorem becomes_file {files : FileSystem} {place : Location} (h : files.IsRegular place) (content : ByteArray) :
    Node.Becomes (files.node? place) (some (.file content (files.permissionsAt place))) := by
  obtain hnode | ⟨old, permissions, hnode⟩ := h
  · rw [permissionsAt, hnode]
    exact .made content
  · rw [permissionsAt, hnode]
    exact .rewritten old content permissions

variable (files : FileSystem) (path : Path) (mode : WriteMode) (data : ByteArray)

/-- A write that changes a location has made or rewritten the file that its path leads to. -/
theorem resolve_of_node?_tryWrite_ne {place : Location}
    (h : (files.tryWrite path mode data).files.node? place ≠ files.node? place) :
    files.resolve path = .ok place ∧ files.IsRegular place ∧
      ∃ content, (files.tryWrite path mode data).files.node? place =
        some (.file content (files.permissionsAt place)) := by
  obtain ⟨_, hwrite⟩ | ⟨target, htarget, hregular, hwrite⟩ | ⟨_, _, _, _, hwrite⟩ :=
    files.tryWrite_cases path mode data <;> rw [hwrite] at h ⊢
  · exact absurd rfl h
  · by_cases hplace : place = target
    · subst hplace
      exact ⟨(resolve_of_writeTarget htarget).1, hregular, _, node?_store_self files hregular.ne_nil _⟩
    · exact absurd (node?_store_of_ne files hplace _) h
  · exact absurd rfl h

/-- A write leaves alone what its path does not lead to. -/
theorem node?_tryWrite_of_resolve_ne {place : Location} (h : files.resolve path ≠ .ok place) :
    (files.tryWrite path mode data).files.node? place = files.node? place := by
  refine Decidable.byContradiction fun hne => ?_
  exact h (files.resolve_of_node?_tryWrite_ne path mode data hne).1

/-- What a write leaves behind comes from what it found. -/
theorem evolves_tryWrite : files.Evolves (files.tryWrite path mode data).files := by
  refine ⟨(files.keepsDirectories_tryWrite path mode data).workingDirectory_eq, fun place => ?_⟩
  by_cases hsame : (files.tryWrite path mode data).files.node? place = files.node? place
  · rw [hsame]
    exact .kept _
  · obtain ⟨-, hregular, content, hafter⟩ := files.resolve_of_node?_tryWrite_ne path mode data hsame
    rw [hafter]
    exact becomes_file hregular content

end FileSystem

end EnvSeed
