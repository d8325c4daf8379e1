import EnvSeed.Environment
import EnvSeed.Failure
import EnvSeed.Plan.Settings

/-!
# Plans

A plan is everything that one seeding works with. Each field comes from the first of its sources that
has a value: an override, then the settings, which have their defaults. Paths among the settings may
start in the home directory; paths of overrides are taken as they are.
-/

namespace EnvSeed

/-- What one seeding works with. -/
structure Plan where
  keyFile : Path := .ofString "keys.txt"
  template : Path := .ofString ".env.sample"
  output : Path := .ofString ".env"
  overrideVar : String := "PRIVATE_KEY"
  marker : String := "PRIVATE_KEY="
  writeMode : WriteMode := .append
  logLevel : String := "info"
  deriving DecidableEq

/-- Values that win over the settings. -/
structure Overrides where
  keyFile : Option Path := none
  template : Option Path := none
  output : Option Path := none
  writeMode : Option WriteMode := none
  logLevel : Option String := none
  deriving DecidableEq

/-- The path that a setting means: a tilde alone or before a slash is the home directory. -/
def homePath (environment : Environment) (text : String) : Path :=
  match text.toList, environment.home? with
  | '~' :: '/' :: rest, some home => Path.join ⟨home⟩ (.ofString (String.ofList rest))
  | ['~'], some home => ⟨home⟩
  | _, _ => .ofString text

/-- Let overrides win over settings. Neither the marker nor the override variable can be empty. -/
def Plan.resolve (environment : Environment) (settings : Settings) (overrides : Overrides) :
    Except Failure Plan :=
  if settings.marker.isEmpty then .error (.config "[secret].marker must not be empty")
  else if settings.overrideVar.isEmpty then .error (.config "[secret].env_var must not be empty")
  else .ok {
    keyFile := overrides.keyFile.getD (homePath environment settings.keyFile)
    template := overrides.template.getD (homePath environment settings.template)
    output := overrides.output.getD (homePath environment settings.output)
    overrideVar := settings.overrideVar
    marker := settings.marker
    writeMode := overrides.writeMode.getD settings.writeMode
    logLevel := overrides.logLevel.getD settings.logLevel }

end EnvSeed
