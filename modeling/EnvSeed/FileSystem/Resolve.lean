import EnvSeed.FileSystem.Basic
import EnvSeed.FileSystem.Fault

/-!
# Following paths

A path is followed name by name from the root or the working directory. Every name but the last has
to lead to a directory; the last may lead to a location that holds nothing yet. An empty name, as
after a final slash, asks for a directory too.
-/

namespace EnvSeed

/-- The longest name a directory can hold, in bytes. -/
def nameLimit : Nat := 255

/-- The length in bytes that no path reaches. -/
def pathLimit : Nat := 4096

/-- The name of a directory in itself. -/
def selfName : ByteArray := ⟨#[0x2e]⟩

/-- The name in a directory of the one that holds it. -/
def parentName : ByteArray := ⟨#[0x2e, 0x2e]⟩

namespace FileSystem

/-- Follow names from a location. -/
def walk (files : FileSystem) : Location → List ByteArray → Except FileFault Location
  | here, [] => .ok here
  | here, name :: rest =>
    match files.node? here with
    | none => .error .notFound
    | some (.file ..) | some (.device _) => .error .notADirectory
    | some .directory =>
      if name.isEmpty || name = selfName then files.walk here rest
      else if name = parentName then files.walk here.dropLast rest
      else if nameLimit < name.size then .error .nameTooLong
      else files.walk (here ++ [name]) rest

/-- Where the names of a path are followed from. -/
def origin (files : FileSystem) (path : Path) : Location :=
  if path.isAbsolute then [] else files.workingDirectory

/-- What is wrong with a path before any name in it is looked up. -/
def pathFault? (path : Path) : Option FileFault :=
  if path.bytes.data.any (· == 0) then some .nulInPath
  else if path.bytes.isEmpty then some .notFound
  else if pathLimit ≤ path.bytes.size then some .nameTooLong
  else none

/-- The location a path leads to, which may hold nothing. -/
def resolve (files : FileSystem) (path : Path) : Except FileFault Location :=
  match pathFault? path with
  | some fault => .error fault
  | none => files.walk (files.origin path) path.names

/-- The location a path leads to by its names alone, whatever is there. -/
def place (files : FileSystem) (path : Path) : Location :=
  path.names.foldl (fun here name =>
    if name.isEmpty || name = selfName then here
    else if name = parentName then here.dropLast
    else here ++ [name]) (files.origin path)

end FileSystem

end EnvSeed
