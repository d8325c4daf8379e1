import EnvSeed.FileSystem.Resolve
import EnvSeed.FileSystem.WriteMode

/-!
# Reading and writing files

Opening finds the node; a directory opens too, and refuses to be read. A write has two steps: it opens
the file, which creates a missing one, readable by its owner alone, or empties the one that is there if
the mode replaces it; then it adds the data. Each step can fail on its own. No step consults the
permissions of a file, so one that was written can be opened and read again, whatever they are.
-/

namespace EnvSeed

/-- The permissions of a file that a write creates: its owner may read and write it. -/
def createdMode : Nat := 0o600

/-- What can be read from a node. Both devices are taken for empty: the full one would give zeros without an end,
and reading from it is left out. -/
def Node.read : Node → Except FileFault ByteArray
  | .file content _ => .ok content
  | .directory => .error .isADirectory
  | .device _ => .ok .empty

/-- Which step of a write failed. -/
inductive WriteFault
  | opening (fault : FileFault)
  | writing (fault : FileFault)
  deriving DecidableEq

/-- How a write went, and the files it left behind. -/
structure WriteAttempt where
  result : Except WriteFault Unit
  files : FileSystem

namespace FileSystem

/-- Open what a path leads to. -/
def open? (files : FileSystem) (path : Path) : Except FileFault Node :=
  match files.resolve path with
  | .error fault => .error fault
  | .ok place =>
    match files.node? place with
    | none => .error .notFound
    | some node => .ok node

/-- The path leads to something. -/
def reaches (files : FileSystem) (path : Path) : Bool :=
  (files.open? path).isOk

/-- The bytes of a file. -/
def read (files : FileSystem) (path : Path) : Except FileFault ByteArray :=
  match files.open? path with
  | .error fault => .error fault
  | .ok node => node.read

/-- The text of a file. -/
def readText (files : FileSystem) (path : Path) : Except FileFault String :=
  match files.read path with
  | .error fault => .error fault
  | .ok bytes =>
    match String.fromUTF8? bytes with
    | none => .error .notText
    | some text => .ok text

/-- The names of a path without the empty ones at its end. -/
def trimmedNames (path : Path) : List ByteArray :=
  (path.names.reverse.dropWhile ByteArray.isEmpty).reverse

/-- The location that a write to a path changes. A path that ends with a slash names a directory. -/
def writeTarget (files : FileSystem) (path : Path) : Except FileFault Location :=
  match pathFault? path with
  | some fault => .error fault
  | none =>
    if path.endsWithSeparator then
      match files.walk (files.origin path) ((trimmedNames path).dropLast ++ [.empty]) with
      | .error fault => .error fault
      | .ok _ => .error .isADirectory
    else files.walk (files.origin path) path.names

/-- Open a path for writing. A missing file is made; one that is there keeps its permissions, and of
its content what the mode leaves. -/
def openForWrite (files : FileSystem) (path : Path) (mode : WriteMode) :
    Except FileFault (Location × FileSystem) :=
  match files.writeTarget path with
  | .error fault => .error fault
  | .ok place =>
    match files.node? place with
    | none => .ok (place, files.store place (.file .empty createdMode))
    | some (.file old permissions) => .ok (place, files.store place (.file (mode.kept old) permissions))
    | some .directory => .error .isADirectory
    | some (.device _) => .ok (place, files)

/-- Add data at the end of what is at a location. -/
def extend (files : FileSystem) (place : Location) (data : ByteArray) : Except FileFault FileSystem :=
  match files.node? place with
  | none => .error .notFound
  | some (.file old permissions) => .ok (files.store place (.file (old ++ data) permissions))
  | some .directory => .error .isADirectory
  | some (.device .null) => .ok files
  | some (.device .full) => if data.isEmpty then .ok files else .error .noSpace

/-- Open a path and add data to what is there. -/
def tryWrite (files : FileSystem) (path : Path) (mode : WriteMode) (data : ByteArray) : WriteAttempt :=
  match files.openForWrite path mode with
  | .error fault => ⟨.error (.opening fault), files⟩
  | .ok (place, opened) =>
    match opened.extend place data with
    | .error fault => ⟨.error (.writing fault), opened⟩
    | .ok written => ⟨.ok (), written⟩

/-- The files after data was written to a path. -/
def write (files : FileSystem) (path : Path) (mode : WriteMode) (data : ByteArray) :
    Except WriteFault FileSystem :=
  let attempt := files.tryWrite path mode data
  attempt.result.map fun _ => attempt.files

end FileSystem

end EnvSeed
