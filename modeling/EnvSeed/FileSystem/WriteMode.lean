/-!
# Write modes

New content is put after the old content of a file or instead of it.
-/

namespace EnvSeed

/-- How new content lands in a file that may have some already. -/
inductive WriteMode
  | append
  | replace
  deriving DecidableEq

/-- The name of the mode in messages and settings. -/
def WriteMode.name : WriteMode → String
  | append => "append"
  | replace => "replace"

/-- The mode of that name. -/
def WriteMode.ofName? (name : String) : Option WriteMode :=
  if name = "append" then some append else if name = "replace" then some replace else none

/-- What is left of the content of a file when it is opened for writing. -/
def WriteMode.kept : WriteMode → (old : ByteArray) → ByteArray
  | append, old => old
  | replace, _ => .empty

/-- The content of a file after `data` was written over `old`. -/
def WriteMode.apply : WriteMode → (old data : ByteArray) → ByteArray
  | append, old, data => old ++ data
  | replace, _, data => data

/-- Adding the data to what is kept gives the new content. -/
theorem WriteMode.kept_append (mode : WriteMode) (old data : ByteArray) :
    mode.kept old ++ data = mode.apply old data := by
  cases mode with
  | append => rfl
  | replace => exact ByteArray.empty_append

end EnvSeed
