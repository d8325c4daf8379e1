import EnvSeed.Failure
import EnvSeed.Text.Search

/-!
# Expanding a template

A template is a text with a marker in it. Expanding puts a value directly behind the leftmost
marker; a template without the marker stays as it is.
-/

namespace EnvSeed

/-- A template with a value in it, and how often the template has the marker. -/
structure Expansion where
  content : String
  occurrences : Nat
  deriving DecidableEq

namespace Expansion

/-- The template has the marker. -/
def markerFound (expansion : Expansion) : Bool :=
  0 < expansion.occurrences

/-- The characters of a template with `value` behind the leftmost `marker`. -/
def characters (marker value template : List Char) : List Char :=
  match Text.cut? marker template with
  | none => template
  | some (before, after) => before ++ marker ++ value ++ after

/-- Put `value` behind the leftmost `marker`. -/
def of (template marker value : String) : Expansion where
  content := String.ofList (characters marker.toList value.toList template.toList)
  occurrences := Text.count marker.toList template.toList

end Expansion

/-- Read the template at a path. -/
def readTemplate (files : FileSystem) (path : Path) : Except Failure String :=
  match files.readText path with
  | .error fault => .error (.missingTemplate path (Failure.unreadable fault))
  | .ok text => .ok text

end EnvSeed
