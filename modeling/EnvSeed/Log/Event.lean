import EnvSeed.Log.Level
import EnvSeed.Text.Quoted

/-!
# Log events

An event is a level, a message and named values. As a line it begins with the level, aligned to the
right, and ends with the values in their order. When it happened is left out.
-/

namespace EnvSeed

/-- A value that an event carries. A key is a text that lines show in quotes. -/
inductive FieldValue
  | text (value : String)
  | key (value : String)
  | number (value : Nat)
  | truth (value : Bool)
  deriving DecidableEq

/-- Something that happened. -/
structure Event where
  level : Level
  message : String
  fields : List (String × FieldValue)
  deriving DecidableEq

/-- A value as it stands in a line. -/
def FieldValue.written : FieldValue → String
  | text value => value
  | key value => Text.quote value
  | number value => value.repr
  | truth value => if value then "true" else "false"

/-- The level in capitals, five columns wide. -/
def Level.column : Level → String
  | error => "ERROR"
  | warn => " WARN"
  | info => " INFO"
  | debug => "DEBUG"
  | trace => "TRACE"

namespace Event

/-- The event on one line, without the time stamp that would stand in front of it. -/
def line (event : Event) : String :=
  event.level.column ++ " " ++ event.message ++
    String.join (event.fields.map fun (name, value) => " " ++ name ++ "=" ++ value.written) ++ "\n"

/-- The lines of the events that a filter shows. -/
def log (filter : LevelFilter) (events : List Event) : String :=
  String.join ((events.filter fun event => filter.shows event.level).map line)

end Event

end EnvSeed
