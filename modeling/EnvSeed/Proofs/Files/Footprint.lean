import EnvSeed.Proofs.Files.Following

/-!
# What a path looks at

Following a path looks at the locations that the beginnings of its names lead to, as far as they lead anywhere.
What else there is makes no difference: file systems that hold the same at these locations follow the path, read it
and write to it alike, fault by fault.
-/

namespace EnvSeed.FileSystem

/-- Names are followed alike if the locations that their beginnings lead to hold the same. -/
theorem walk_congr {files other : FileSystem} {here : Location} {names : List ByteArray}
    (h : ∀ front place, front <+: names → files.walk here front = .ok place →
      other.node? place = files.node? place) : other.walk here names = files.walk here names := by
  induction names generalizing here with
  | nil => rfl
  | cons name rest ih =>
    have hhere : other.node? here = files.node? here := h [] here List.nil_prefix rfl
    rw [← List.singleton_append, walk_append, walk_append, walk_singleton_congr hhere]
    cases hstep : files.walk here [name] with
    | error fault => rfl
    | ok there =>
      refine ih fun front place hfront hwalk => h (name :: front) place (List.cons_prefix_cons.mpr ⟨rfl, hfront⟩) ?_
      rw [← List.singleton_append, walk_append, hstep]
      exact hwalk

/-- The locations that following a path looks at. -/
def passed (files : FileSystem) (path : Path) : List Location :=
  match pathFault? path with
  | some _ => []
  | none => (List.range (path.names.length + 1)).filterMap fun count =>
      (files.walk (files.origin path) (path.names.take count)).toOption

/-- The location that a beginning of the names leads to is looked at. -/
theorem mem_passed {files : FileSystem} {path : Path} {front : List ByteArray} {place : Location}
    (hfault : pathFault? path = none) (hfront : front <+: path.names)
    (hwalk : files.walk (files.origin path) front = .ok place) : place ∈ files.passed path := by
  have htake : path.names.take front.length = front := (List.prefix_iff_eq_take.mp hfront).symm
  have hlength : front.length < path.names.length + 1 := Nat.lt_succ_of_le hfront.length_le
  simp only [passed, hfault, List.mem_filterMap, List.mem_range]
  exact ⟨front.length, hlength, by rw [htake, hwalk]; rfl⟩

/-- The location that a path leads to is looked at. -/
theorem mem_passed_of_resolve {files : FileSystem} {path : Path} {place : Location}
    (h : files.resolve path = .ok place) : place ∈ files.passed path := by
  unfold resolve at h
  split at h
  · cases h
  · next hfault => exact mem_passed hfault (List.prefix_refl path.names) h

/-- The names of a path without the empty ones at its end are a beginning of its names. -/
theorem trimmedNames_isInitial (path : Path) : trimmedNames path <+: path.names := by
  rw [← List.reverse_suffix, trimmedNames, List.reverse_reverse]
  exact List.dropWhile_suffix _

/-- Both file systems hold the same at every location that one of the paths looks at. -/
structure AgreeAlong (paths : List Path) (files other : FileSystem) : Prop where
  workingDirectory_eq : other.workingDirectory = files.workingDirectory
  node?_eq : ∀ path ∈ paths, ∀ place ∈ files.passed path, other.node? place = files.node? place

namespace AgreeAlong

variable {paths : List Path} {files other : FileSystem}

/-- A file system holds the same as itself. -/
theorem refl (paths : List Path) (files : FileSystem) : AgreeAlong paths files files :=
  ⟨rfl, fun _ _ _ _ => rfl⟩

/-- What holds the same along some paths does so along fewer. -/
theorem mono (h : AgreeAlong paths files other) {fewer : List Path} (hfewer : fewer ⊆ paths) :
    AgreeAlong fewer files other :=
  ⟨h.workingDirectory_eq, fun path hpath => h.node?_eq path (hfewer hpath)⟩

variable {path : Path} (h : AgreeAlong paths files other) (hpath : path ∈ paths)
include h hpath

/-- A beginning of the names of a path is followed alike. -/
theorem walk_eq {names : List ByteArray} (hfault : pathFault? path = none) (hnames : names <+: path.names) :
    other.walk (files.origin path) names = files.walk (files.origin path) names :=
  walk_congr fun _ place hfront hwalk =>
    h.node?_eq path hpath place (mem_passed hfault (hfront.trans hnames) hwalk)

/-- A path leads to the same location, or fails alike. -/
theorem resolve_eq : other.resolve path = files.resolve path := by
  have horigin : other.origin path = files.origin path := by simp only [origin, h.workingDirectory_eq]
  unfold resolve
  cases hfault : pathFault? path with
  | some fault => rfl
  | none => simp only [horigin, h.walk_eq hpath hfault (List.prefix_refl path.names)]

/-- A path opens the same node, or fails alike. -/
theorem open?_eq : other.open? path = files.open? path := by
  unfold open?
  rw [h.resolve_eq hpath]
  cases hresolve : files.resolve path with
  | error fault => rfl
  | ok place => simp only [h.node?_eq path hpath place (mem_passed_of_resolve hresolve)]

/-- A path reads as the same text, or fails alike. -/
theorem readText_eq : other.readText path = files.readText path := by
  simp only [readText, read, h.open?_eq hpath]

/-- A write to a path changes the same location, or is refused alike. -/
theorem writeTarget_eq : other.writeTarget path = files.writeTarget path := by
  have horigin : other.origin path = files.origin path := by simp only [origin, h.workingDirectory_eq]
  unfold writeTarget
  cases hfault : pathFault? path with
  | some fault => rfl
  | none =>
    have hfront : (trimmedNames path).dropLast <+: path.names :=
      (List.dropLast_prefix _).trans (trimmedNames_isInitial path)
    -- The empty name behind the others looks at no location that they do not look at.
    have hclosed : other.walk (files.origin path) ((trimmedNames path).dropLast ++ [.empty]) =
        files.walk (files.origin path) ((trimmedNames path).dropLast ++ [.empty]) := by
      rw [walk_append, walk_append, h.walk_eq hpath hfault hfront]
      cases hwalk : files.walk (files.origin path) (trimmedNames path).dropLast with
      | error fault => rfl
      | ok here =>
        have hhere := h.node?_eq path hpath here (mem_passed hfault hfront hwalk)
        exact walk_singleton_congr hhere .empty
    simp only [horigin, hclosed, h.walk_eq hpath hfault (List.prefix_refl path.names)]

/-- A write to a path goes well in both, or is refused alike. -/
theorem tryWrite_result_eq (mode : WriteMode) (data : ByteArray) :
    (other.tryWrite path mode data).result = (files.tryWrite path mode data).result := by
  refine tryWrite_result_of_target (h.writeTarget_eq hpath) (fun place htarget => ?_) mode data
  exact h.node?_eq path hpath place (mem_passed_of_resolve (resolve_of_writeTarget htarget).1)

end AgreeAlong

end EnvSeed.FileSystem
