import EnvSeed.Dotenv.Document
import EnvSeed.Log.Event

/-!
# Inspecting a dotenv file

Inspecting gives a summary and tells what it found in exactly one event: a warning when there is no
summary, and the summary itself otherwise.
-/

namespace EnvSeed.Dotenv

/-- The file cannot be opened. -/
def cannotOpen (path : Path) (fault : FileFault) : Event :=
  ⟨.warn, "cannot open output for inspection", [("path", .text path.display), ("error", .text fault.message)]⟩

/-- The file cannot be read as dotenv syntax. -/
def notValid (path : Path) (error : String) : Event :=
  ⟨.warn, "output is not valid dotenv syntax", [("path", .text path.display), ("error", .text error)]⟩

/-- The file was read. -/
def inspected (path : Path) (key : String) (summary : Summary) : Event :=
  ⟨.debug, "output inspected", [("path", .text path.display), ("entries", .number summary.entries),
    ("key", .key key), ("key_defined", .truth summary.keyDefined)]⟩

/-- Read the file at a path and look for a key. -/
def inspect (environment : Environment) (files : FileSystem) (path : Path) (key : String) :
    Option Summary × Event :=
  match files.open? path with
  | .error fault => (none, cannotOpen path fault)
  | .ok node =>
    match node.read with
    | .error fault => (none, notValid path fault.message)
    | .ok bytes =>
      match parse bytes with
      | .error fault => (none, notValid path fault.message)
      | .ok entries =>
        let summary := summarize environment key entries
        (some summary, inspected path key summary)

end EnvSeed.Dotenv
