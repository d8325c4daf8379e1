import EnvSeed.Dotenv.LogicalLine
import EnvSeed.Text.Alphanumeric

/-!
# Values of dotenv entries

A value is a sequence of literal characters and names of variables. Quotes, escapes and blanks are
settled when it is read, variables only when it is evaluated, so no variable has a say in whether a
value can be read.
-/

namespace EnvSeed.Dotenv

/-- A piece of a value. -/
inductive Part
  | literal (c : Char)
  | variableNamed (name : String)
  deriving DecidableEq

/-- Where in a value the reader stands. `quoted` tells whether a double quote is open. -/
inductive Place
  | plain (quoted : Bool)
  | escaped (quoted : Bool)
  | strong
  | name (quoted : Bool) (reversed : List Char)
  | braced (quoted : Bool) (reversed : List Char)
  | ended
  deriving DecidableEq

/-- The variable of a reversed name. -/
def Part.ofName (reversed : List Char) : Part :=
  .variableNamed (String.ofList reversed.reverse)

/-- What an escaped character stands for. -/
def unescape? (c : Char) : Option Char :=
  if c = 'n' then some '\n'
  else if c = '\x5c' || c = '\x27' || c = '\x22' || c = '$' || c = ' ' then some c
  else none

/-- The value read so far, last part first, and the place in it. -/
structure Progress where
  place : Place
  parts : List Part

/-- Read a character outside of escapes, single quotes and names. -/
def readPlain (quoted : Bool) (parts : List Part) (c : Char) : Progress :=
  if c = '$' then ⟨.name quoted [], parts⟩
  else if c = '\x5c' then ⟨.escaped quoted, parts⟩
  else if c = '\x22' then ⟨.plain (!quoted), parts⟩
  else if quoted then ⟨.plain true, .literal c :: parts⟩
  else if c = '\x27' then ⟨.strong, parts⟩
  else if c = ' ' || c = '\t' then ⟨.ended, parts⟩
  else ⟨.plain false, .literal c :: parts⟩

/-- Read a character after the dollar sign of a name without braces. The one that ends the name is
literal, whatever it is, unless it is the next dollar sign. -/
def readName (quoted : Bool) (reversed : List Char) (parts : List Part) (c : Char) : Progress :=
  if Text.isAlphanumeric c then ⟨.name quoted (c :: reversed), parts⟩
  else if c = '\x7b' && reversed.isEmpty then ⟨.braced quoted [], parts⟩
  else if c = '$' then ⟨.name quoted [], .ofName reversed :: parts⟩
  else ⟨.plain quoted, .literal c :: .ofName reversed :: parts⟩

/-- Read a character that does not follow an unquoted blank. -/
def Progress.read (progress : Progress) (c : Char) : Option Progress :=
  match progress.place with
  | .plain quoted => some (readPlain quoted progress.parts c)
  | .escaped quoted => (unescape? c).map fun meant => ⟨.plain quoted, .literal meant :: progress.parts⟩
  | .strong =>
    if c = '\x27' then some ⟨.plain false, progress.parts⟩
    else some ⟨.strong, .literal c :: progress.parts⟩
  | .name quoted reversed => some (readName quoted reversed progress.parts c)
  | .braced quoted reversed =>
    if c = '\x7d' then some ⟨.plain quoted, .ofName reversed :: progress.parts⟩
    else some ⟨.braced quoted (c :: reversed), progress.parts⟩
  | .ended => if c = ' ' || c = '\t' then some progress else none

/-- Read a value to its end or to the comment after it. A fault is the number of characters before
the one that cannot stand where it is. -/
def readFrom : Nat → Progress → List Char → Except Nat Progress
  | _, progress, [] => .ok progress
  | index, progress, c :: rest =>
    if progress.place = .ended && c = '#' then .ok progress
    else
      match progress.read c with
      | none => .error index
      | some next => readFrom (index + 1) next rest

/-- The parts of a value that ends at this place, first part first. -/
def Progress.finish? (progress : Progress) : Option (List Part) :=
  match progress.place with
  | .plain false | .escaped false | .ended => some progress.parts.reverse
  | .name false reversed => some (.ofName reversed :: progress.parts).reverse
  | .plain true | .escaped true | .name true _ | .strong | .braced .. => none

/-- Read a value. One that leaves a quote or a brace open is at fault in its last byte. -/
def readValue (text : List Char) : Except Fault (List Part) :=
  match readFrom 0 ⟨.plain false, []⟩ text with
  | .error index => .error (.line (String.ofList text) index)
  | .ok progress =>
    match progress.finish? with
    | some parts => .ok parts
    | none => .error (.line (String.ofList text) ((String.ofList text).utf8ByteSize - 1))

/-- The text of a value, with each variable replaced by what `meaning` gives. -/
def evaluate (meaning : String → String) (parts : List Part) : String :=
  parts.foldl (fun text part => match part with
    | .literal c => text.push c
    | .variableNamed name => text ++ meaning name) ""

end EnvSeed.Dotenv
