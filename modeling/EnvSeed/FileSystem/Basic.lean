import EnvSeed.FileSystem.Path

/-!
# File systems

A file system is a finite table of nodes by location. A location is the list of names that leads
from the root to the node; the root itself is always a directory. Storing a node changes what one
location holds and nothing else.

A file has permissions, which are kept and never asked for: access is denied to nobody. So what is said
of a file system here does not speak for a user who may not read or write some of its files.
-/

namespace EnvSeed

/-- The names on the way from the root. -/
abbrev Location := List ByteArray

/-- A device that takes bytes and keeps none. -/
inductive Device
  | null
  | full
  deriving DecidableEq

/-- What a location can hold. -/
inductive Node
  | file (content : ByteArray) (mode : Nat)
  | directory
  | device (device : Device)
  deriving DecidableEq

/-- Nodes by location, and the directory where relative paths start. -/
structure FileSystem where
  workingDirectory : Location
  entries : List (Location × Node)
  deriving DecidableEq

/-- Put a node into a table, in the place of the one at the same location if there is one. -/
def storeIn (place : Location) (node : Node) : List (Location × Node) → List (Location × Node)
  | [] => [(place, node)]
  | entry :: rest => if entry.1 = place then (place, node) :: rest else entry :: storeIn place node rest

namespace FileSystem

/-- The node at a location. -/
def node? (files : FileSystem) (place : Location) : Option Node :=
  if place = [] then some .directory
  else (files.entries.find? fun entry => entry.1 = place).map (·.2)

/-- Let `place` hold `node`. -/
def store (files : FileSystem) (place : Location) (node : Node) : FileSystem :=
  { files with entries := storeIn place node files.entries }

/-- Make a directory where there is nothing yet. -/
def ensureDirectory (files : FileSystem) (place : Location) : FileSystem :=
  if (files.node? place).isNone then files.store place .directory else files

/-- Make every directory on the way to `place` that is not there yet. -/
def makeParents (files : FileSystem) (place : Location) : FileSystem :=
  (List.range place.length).foldl (fun files depth => files.ensureDirectory (place.take depth)) files

/-- Take out `place` and everything below it. -/
def remove (files : FileSystem) (place : Location) : FileSystem :=
  { files with entries := files.entries.filter fun entry => !(place.length ≤ entry.1.length &&
      entry.1.take place.length = place) }

/-- Everything below the working directory, by the names that lead there from it. -/
def listing (files : FileSystem) : List (Location × Node) :=
  files.entries.filterMap fun entry =>
    if files.workingDirectory.length < entry.1.length &&
        entry.1.take files.workingDirectory.length = files.workingDirectory then
      some (entry.1.drop files.workingDirectory.length, entry.2)
    else none

/-- A system with the two devices and an empty working directory. -/
def fresh : FileSystem where
  workingDirectory := ["tmp".toUTF8, "work".toUTF8]
  entries :=
    [(["dev".toUTF8], .directory), (["dev".toUTF8, "null".toUTF8], .device .null),
     (["dev".toUTF8, "full".toUTF8], .device .full), (["tmp".toUTF8], .directory),
     (["tmp".toUTF8, "work".toUTF8], .directory)]

/-- Storing decides what its own location holds. -/
theorem node?_store_self (files : FileSystem) {place : Location} (h : place ≠ []) (node : Node) :
    (files.store place node).node? place = some node := by
  obtain ⟨here, entries⟩ := files
  simp only [node?, store, h, if_false]
  induction entries with
  | nil => simp [storeIn]
  | cons entry rest ih =>
    by_cases he : entry.1 = place
    · simp [storeIn, he]
    · simpa [storeIn, he] using ih

/-- Of two nodes stored at one location only the last is kept. -/
theorem store_store (files : FileSystem) (place : Location) (first second : Node) :
    (files.store place first).store place second = files.store place second := by
  obtain ⟨here, entries⟩ := files
  have hentries : storeIn place second (storeIn place first entries) = storeIn place second entries := by
    induction entries with
    | nil => simp [storeIn]
    | cons entry rest ih =>
      by_cases he : entry.1 = place
      · simp [storeIn, he]
      · simp [storeIn, he, ih]
  exact congrArg (FileSystem.mk here) hentries

/-- Storing leaves every other location alone. -/
theorem node?_store_of_ne (files : FileSystem) {place other : Location} (h : other ≠ place) (node : Node) :
    (files.store place node).node? other = files.node? other := by
  obtain ⟨here, entries⟩ := files
  simp only [node?, store]
  split
  · rfl
  · induction entries with
    | nil => simp [storeIn, Ne.symm h]
    | cons entry rest ih =>
      by_cases he : entry.1 = place
      · simp [storeIn, he, Ne.symm h]
      · by_cases ho : entry.1 = other
        · simp [storeIn, ho, h]
        · simpa [storeIn, he, ho] using ih

end FileSystem

end EnvSeed
