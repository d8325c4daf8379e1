import EnvSeed.Plan.Basic
import EnvSeed.Toml.Document

/-!
# Loading a plan

The settings come from the configuration file that is named, from the default one if none is named and
it is there, or from nowhere. A log level in the environment stands in for one among the overrides.
-/

namespace EnvSeed.Plan

/-- The configuration file that is read when none is named. -/
def defaultFile : Path := .ofString "envboot.toml"

/-- The variable that can set the log level. -/
def logLevelVar : String := "ENVBOOT_LOG_LEVEL"

/-- The settings of the file at a path. Of a text that spells none the message names the file alone: the account
that the reader of the document gives of the fault, which would follow the name, is left out. -/
def readSettings (files : FileSystem) (path : Path) : Except Failure Settings :=
  match files.readText path with
  | .error fault => .error (.config s!"cannot read {path.display}: {fault.message}")
  | .ok text =>
    match (Toml.parse? text).bind Settings.ofDocument? with
    | none => .error (.config s!"parse error in {path.display}")
    | some settings => .ok settings

/-- The plan with the settings of a file, or with the defaults. -/
def fromFile (environment : Environment) (files : FileSystem) (path : Option Path)
    (overrides : Overrides) : Except Failure Plan :=
  match path with
  | none => resolve environment {} overrides
  | some path =>
    match readSettings files path with
    | .error failure => .error failure
    | .ok settings => resolve environment settings overrides

/-- A log level of the environment stands in for a missing override. An empty one does not count. -/
def withLogLevel (environment : Environment) (overrides : Overrides) : Overrides :=
  { overrides with
    logLevel := overrides.logLevel.or ((environment.text? logLevelVar).filter (!·.isEmpty)) }

/-- The file to read: the one named, else the default one if it is there. -/
def chosenFile (files : FileSystem) (path : Option Path) : Option Path :=
  path.or (if files.reaches defaultFile then some defaultFile else none)

/-- The plan of an invocation. -/
def load (environment : Environment) (files : FileSystem) (path : Option Path)
    (overrides : Overrides) : Except Failure Plan :=
  fromFile environment files (chosenFile files path) (withLogLevel environment overrides)

end EnvSeed.Plan
