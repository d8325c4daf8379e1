import EnvSeed.Proofs.Files.Writing
import EnvSeed.Proofs.Text.Bytes

/-!
# Following a path through a change

A path is followed through directories alone, so it leads to the same location in any two file systems
of which the second has at least the directories of the first. This is what carries a path over a write,
and over whatever else happens to files between two writes.
-/

namespace EnvSeed.FileSystem

/-- Names are followed one part after the other. -/
theorem walk_append (files : FileSystem) (here : Location) (front back : List ByteArray) :
    files.walk here (front ++ back) = (files.walk here front).bind fun there => files.walk there back := by
  induction front generalizing here with
  | nil => rfl
  | cons name rest ih =>
    simp only [List.cons_append, walk]
    cases files.node? here with
    | none => rfl
    | some node =>
      cases node with
      | file => rfl
      | device => rfl
      | directory =>
        simp only
        split
        · exact ih here
        · split
          · exact ih here.dropLast
          · split
            · rfl
            · exact ih (here ++ [name])

/-- One name is looked up where it stands, and nowhere else. -/
theorem walk_singleton_congr {files other : FileSystem} {here : Location} (h : other.node? here = files.node? here)
    (name : ByteArray) : other.walk here [name] = files.walk here [name] := by
  simp only [walk, h]

/-- Only in a directory there are names to follow. -/
theorem directory_of_walk_cons {files : FileSystem} {here target : Location} {name : ByteArray}
    {rest : List ByteArray} (h : files.walk here (name :: rest) = .ok target) :
    files.node? here = some .directory := by
  unfold walk at h
  split at h
  · cases h
  · cases h
  · cases h
  · next hnode => exact hnode

/-- Every directory of `before` is one of `after`, and relative paths start at the same place. -/
structure KeepsDirectories (before after : FileSystem) : Prop where
  workingDirectory_eq : after.workingDirectory = before.workingDirectory
  directory : ∀ place, before.node? place = some .directory → after.node? place = some .directory

/-- Nothing is lost where nothing changes. -/
theorem KeepsDirectories.refl (files : FileSystem) : files.KeepsDirectories files :=
  ⟨rfl, fun _ h => h⟩

/-- Storing where no directory is takes none away. -/
theorem keepsDirectories_store {files : FileSystem} {place : Location}
    (h : files.node? place ≠ some .directory) (node : Node) : files.KeepsDirectories (files.store place node) := by
  refine ⟨rfl, fun other hother => ?_⟩
  have hne : other ≠ place := by
    intro heq
    exact h (heq ▸ hother)
  rw [node?_store_of_ne files hne, hother]

/-- No write takes a directory away. -/
theorem keepsDirectories_tryWrite (files : FileSystem) (path : Path) (mode : WriteMode) (data : ByteArray) :
    files.KeepsDirectories (files.tryWrite path mode data).files := by
  obtain ⟨_, hwrite⟩ | ⟨_, _, hregular, hwrite⟩ | ⟨_, _, _, _, hwrite⟩ := files.tryWrite_cases path mode data <;>
    rw [hwrite]
  · exact .refl files
  · exact keepsDirectories_store hregular.not_directory _
  · exact .refl files

/-- Names lead to the same location as long as the directories on the way are kept. -/
theorem KeepsDirectories.walk_eq {before after : FileSystem} (h : before.KeepsDirectories after)
    {names : List ByteArray} {here target : Location} (hwalk : before.walk here names = .ok target) :
    after.walk here names = .ok target := by
  induction names generalizing here with
  | nil => exact hwalk
  | cons name rest ih =>
    have hnode := directory_of_walk_cons hwalk
    have hstep := walk_singleton_congr ((h.directory here hnode).trans hnode.symm) name
    rw [← List.singleton_append, walk_append] at hwalk ⊢
    rw [hstep]
    cases hthere : before.walk here [name] with
    | error fault =>
      rw [hthere] at hwalk
      cases hwalk
    | ok there =>
      rw [hthere] at hwalk
      exact ih hwalk

/-- A path leads to the same location as long as the directories on the way are kept. -/
theorem KeepsDirectories.resolve_eq {before after : FileSystem} (h : before.KeepsDirectories after)
    {path : Path} {place : Location} (hresolve : before.resolve path = .ok place) :
    after.resolve path = .ok place := by
  unfold resolve at hresolve ⊢
  cases hfault : pathFault? path with
  | some fault => simp [hfault] at hresolve
  | none =>
    simp only [hfault, origin, h.workingDirectory_eq] at hresolve ⊢
    exact h.walk_eq hresolve

/-- A path that can be written to leads to where it is written. -/
theorem resolve_of_writeTarget {files : FileSystem} {path : Path} {place : Location}
    (h : files.writeTarget path = .ok place) : files.resolve path = .ok place ∧ path.endsWithSeparator = false := by
  unfold writeTarget at h
  split at h
  · cases h
  · next hfault =>
    split at h
    · split at h <;> cases h
    · next hends => exact ⟨by simp [resolve, hfault, h], by simpa using hends⟩

/-- Opening the path of a node gives the node. -/
theorem open?_of_resolve {files : FileSystem} {path : Path} {place : Location} {node : Node}
    (hresolve : files.resolve path = .ok place) (hnode : files.node? place = some node) :
    files.open? path = .ok node := by
  simp [open?, hresolve, hnode]

/-- The path of a file that was written for a text reads as that text. -/
theorem readText_of_file {files : FileSystem} {path : Path} {place : Location} {text : String} {permissions : Nat}
    (hresolve : files.resolve path = .ok place) (hnode : files.node? place = some (.file text.toUTF8 permissions)) :
    files.readText path = .ok text := by
  simp only [readText, read, open?_of_resolve hresolve hnode, Node.read, Text.fromUTF8?_toUTF8]

/-- After a write to a regular location its path opens a file with the content the mode says. -/
theorem open?_tryWrite_of_regular {files : FileSystem} {path : Path} {place : Location} (mode : WriteMode)
    (data : ByteArray) (htarget : files.writeTarget path = .ok place) (hregular : files.IsRegular place) :
    (files.tryWrite path mode data).files.open? path =
      .ok (.file (mode.apply (files.contentAt place) data) (files.permissionsAt place)) := by
  have hkeeps := files.keepsDirectories_tryWrite path mode data
  have hresolve := hkeeps.resolve_eq (resolve_of_writeTarget htarget).1
  rw [tryWrite_of_regular mode data htarget hregular] at hresolve ⊢
  exact open?_of_resolve hresolve (node?_store_self files hregular.ne_nil _)

/-- What was written to can be read. -/
theorem read_tryWrite {files : FileSystem} {path : Path} {mode : WriteMode} {data : ByteArray}
    (h : (files.tryWrite path mode data).result = .ok ()) :
    ∃ content, (files.tryWrite path mode data).files.read path = .ok content := by
  obtain ⟨_, hwrite⟩ | ⟨_, htarget, hregular, -⟩ | ⟨_, _, htarget, hnode, hwrite⟩ :=
    files.tryWrite_cases path mode data
  · rw [hwrite] at h
    cases h
  · have hopen := open?_tryWrite_of_regular mode data htarget hregular
    exact ⟨_, by rw [read, hopen]; rfl⟩
  · have hopen := open?_of_resolve (resolve_of_writeTarget htarget).1 hnode
    exact ⟨_, by rw [hwrite, read, hopen]; rfl⟩

/-- What a path reads as is the same as long as the directories on the way and the node there are kept. -/
theorem KeepsDirectories.readText_eq {before after : FileSystem} (h : before.KeepsDirectories after)
    {path : Path} {place : Location} (hresolve : before.resolve path = .ok place)
    (hnode : after.node? place = before.node? place) : after.readText path = before.readText path := by
  simp only [readText, read, open?, hresolve, h.resolve_eq hresolve, hnode]

end EnvSeed.FileSystem
