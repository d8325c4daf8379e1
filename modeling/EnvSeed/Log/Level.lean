import EnvSeed.Failure

/-!
# Log levels

A level is how serious an event is; a filter names the least serious level still shown, or shows
nothing. A filter is spelled by name in any ASCII case or by its number from 0 to 5.
-/

namespace EnvSeed

/-- How serious an event is. -/
inductive Level
  | error
  | warn
  | info
  | debug
  | trace
  deriving DecidableEq

/-- Which events are shown: none, or those up to a level. -/
inductive LevelFilter
  | off
  | upTo (level : Level)
  deriving DecidableEq

namespace Level

/-- The more serious, the lower; 0 is left for showing nothing. -/
def rank : Level → Nat
  | error => 1
  | warn => 2
  | info => 3
  | debug => 4
  | trace => 5

/-- The name of a level. -/
def name : Level → String
  | error => "error"
  | warn => "warn"
  | info => "info"
  | debug => "debug"
  | trace => "trace"

/-- The levels from the most serious on. -/
def all : List Level := [error, warn, info, debug, trace]

end Level

namespace LevelFilter

/-- The rank of the least serious level shown. -/
def rank : LevelFilter → Nat
  | off => 0
  | upTo level => level.rank

/-- The name of a filter. -/
def name : LevelFilter → String
  | off => "off"
  | upTo level => level.name

/-- The filters by rank. -/
def all : List LevelFilter := off :: Level.all.map upTo

/-- The filter shows events of a level. -/
def shows (filter : LevelFilter) (level : Level) : Bool :=
  level.rank ≤ filter.rank

/-- The value of a single digit, after any number of zeros. -/
def smallNumber? (digits : List Char) : Option Nat :=
  match digits.dropWhile (· = '0') with
  | [] => some 0
  | [digit] => some (digit.toNat - '0'.toNat)
  | _ => none

/-- The filter of a number, written in digits with at most one plus sign before them. -/
def ofNumber? (text : List Char) : Option LevelFilter :=
  let digits := match text with
    | '+' :: rest => rest
    | _ => text
  if digits.isEmpty || !digits.all Char.isDigit then none
  else (smallNumber? digits).bind (all[·]?)

/-- The filter of a name, in any ASCII case. -/
def ofName? (text : List Char) : Option LevelFilter :=
  all.find? fun filter => filter.name.toList = text.map Char.toLower

/-- The filter a text spells. -/
def parse (text : String) : Except Failure LevelFilter :=
  if text.isEmpty then .error (.logger "log level must not be empty")
  else
    match (ofNumber? text.toList).or (ofName? text.toList) with
    | some filter => .ok filter
    | none => .error (.logger s!"unrecognised log level: '{text}'")

end LevelFilter

end EnvSeed
