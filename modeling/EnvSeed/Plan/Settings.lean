import EnvSeed.Toml.Item
import EnvSeed.FileSystem.WriteMode

/-!
# Settings of a configuration document

Seven keys of a document count, in four sections; each has a default. A section may also be written
as an array of its values in their order, or as a date or time, which sets none of them. A known key
or section of another type makes the whole document unusable; unknown keys do not matter.
-/

namespace EnvSeed

/-- The seven settings, with their defaults. -/
structure Settings where
  keyFile : String := "keys.txt"
  template : String := ".env.sample"
  output : String := ".env"
  overrideVar : String := "PRIVATE_KEY"
  marker : String := "PRIVATE_KEY="
  writeMode : WriteMode := .append
  logLevel : String := "info"
  deriving DecidableEq

namespace Settings

open Toml

/-- The items of a section, by the position and the name of their keys. -/
abbrev Section := Nat → String → Option Item

/-- The section of a name. One that is missing sets nothing. -/
def section? (document : Table) (name : String) : Option Section :=
  match document.get? name with
  | none => some fun _ _ => none
  | some (.table _ entries) => some fun _ key => Table.get? entries key
  | some (.array items) => some fun position _ => items[position]?
  | some (.tables elements) => some fun position _ => elements[position]?.map (.table .header)
  | some .dateTime => some fun _ _ => none
  | some (.string _) | some .scalar => none

/-- The text of an item, or the default where there is no item. -/
def text? (default : String) : Option Item → Option String
  | none => some default
  | some (.string text) => some text
  | some _ => none

/-- The item is a table or an array with nothing in it. -/
def isHollow : Item → Bool
  | .table _ entries => entries.isEmpty
  | .array items => items.isEmpty
  | _ => false

/-- The write mode of an item: its name, or a table whose one key is the name and has a hollow item. -/
def mode? (default : WriteMode) : Option Item → Option WriteMode
  | none => some default
  | some (.string name) => WriteMode.ofName? name
  | some (.table _ [(name, item)]) => if isHollow item then WriteMode.ofName? name else none
  | some _ => none

/-- The settings of a document. -/
def ofDocument? (document : Table) : Option Settings := do
  let defaults : Settings := {}
  let paths ← section? document "paths"
  let secret ← section? document "secret"
  let output ← section? document "output"
  let log ← section? document "log"
  return {
    keyFile := ← text? defaults.keyFile (paths 0 "key_file")
    template := ← text? defaults.template (paths 1 "template")
    output := ← text? defaults.output (paths 2 "output")
    overrideVar := ← text? defaults.overrideVar (secret 0 "env_var")
    marker := ← text? defaults.marker (secret 1 "marker")
    writeMode := ← mode? defaults.writeMode (output 0 "mode")
    logLevel := ← text? defaults.logLevel (log 0 "level") }

end Settings

end EnvSeed
