/-!
# Finding a pattern in a text

The leftmost occurrence of a pattern cuts a text in two. Occurrences are counted from the left
without overlaps; the empty pattern occurs before every character and at the end.
-/

namespace EnvSeed.Text

/-- Cut out the leftmost occurrence of `pattern`; `before` is what was passed, last character first. -/
def cutFrom? (pattern before : List Char) : List Char → Option (List Char × List Char)
  | [] => if pattern.isEmpty then some (before.reverse, []) else none
  | c :: rest =>
    if pattern.isPrefixOf (c :: rest) then some (before.reverse, (c :: rest).drop pattern.length)
    else cutFrom? pattern (c :: before) rest

/-- What stands before and after the leftmost occurrence of `pattern`. -/
def cut? (pattern text : List Char) : Option (List Char × List Char) :=
  cutFrom? pattern [] text

/-- Count occurrences, passing over `skip` more characters of the one counted last. -/
def countFrom (pattern : List Char) : (skip found : Nat) → List Char → Nat
  | _, found, [] => if pattern.isEmpty then found + 1 else found
  | skip + 1, found, _ :: rest => countFrom pattern skip found rest
  | 0, found, c :: rest =>
    if pattern.isPrefixOf (c :: rest) then countFrom pattern (pattern.length - 1) (found + 1) rest
    else countFrom pattern 0 found rest

/-- The number of occurrences of `pattern`, taken from the left without overlaps. -/
def count (pattern text : List Char) : Nat :=
  countFrom pattern 0 0 text

end EnvSeed.Text
