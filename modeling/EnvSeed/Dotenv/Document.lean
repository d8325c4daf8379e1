import EnvSeed.Dotenv.Entry
import EnvSeed.Environment
import EnvSeed.FileSystem.Fault

/-!
# Dotenv files

A file is read to its entries or to its first fault; a later fault never hides an earlier one.
Evaluating goes through the entries in order: a variable means its value in the environment if that
is text, else the value of the last entry of that name so far, else nothing.
-/

namespace EnvSeed.Dotenv

/-- What is said of a fault. -/
def Fault.message : Fault → String
  | line text index => s!"Error parsing line: '{text}', error at line index: {index}"
  | notText => FileFault.notText.message

/-- The entries of a file. -/
def parse (bytes : ByteArray) : Except Fault (List Entry) :=
  let reader := readLines bytes
  match reader.done.reverse.mapM readEntry with
  | .error fault => .error fault
  | .ok entries =>
    match reader.endFault? with
    | some fault => .error fault
    | none => .ok (entries.filterMap id)

/-- The values of the entries so far, last first. -/
abbrev Values := List (String × String)

/-- What a variable means. -/
def meaning (environment : Environment) (values : Values) (name : String) : String :=
  match environment.text? name with
  | some text => text
  | none => (values.find? (·.1 = name)).elim "" (·.2)

/-- Add the value of one more entry. -/
def define (environment : Environment) (values : Values) (entry : Entry) : Values :=
  (entry.key, evaluate (meaning environment values) entry.value) :: values

/-- The keys and values of entries, last first. -/
def values (environment : Environment) (entries : List Entry) : Values :=
  entries.foldl (define environment) []

/-- What is counted and looked up in a file. -/
structure Summary where
  entries : Nat
  keyDefined : Bool
  deriving DecidableEq

/-- Count the entries, and look for one that gives `key` a value that is not empty. -/
def summarize (environment : Environment) (key : String) (entries : List Entry) : Summary where
  entries := entries.length
  keyDefined := (values environment entries).any fun (name, value) => name = key && !value.isEmpty

end EnvSeed.Dotenv
