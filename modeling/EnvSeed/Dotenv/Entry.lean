import EnvSeed.Dotenv.Value

/-!
# Entries of a dotenv file

A logical line holds nothing, or a key, an equals sign and a value. The word `export` may stand
before the key; it is a key itself when an equals sign follows it.
-/

namespace EnvSeed.Dotenv

/-- A key and its value. -/
structure Entry where
  key : String
  value : List Part
  deriving DecidableEq

/-- A letter, or the underscore. -/
def isKeyStart (c : Char) : Bool :=
  c.isAlpha || c = '_'

/-- A letter, a digit, the underscore or the dot. -/
def isKeyRest (c : Char) : Bool :=
  c.isAlphanum || c = '_' || c = '.'

/-- A name that an entry can have. -/
def isKey (name : List Char) : Bool :=
  (name.head?.any isKeyStart) && name.all isKeyRest

/-- What is left of a line, and the number of bytes before it. -/
structure Cursor where
  rest : List Char
  index : Nat

namespace Cursor

/-- Pass over blanks. -/
def skipBlanks (cursor : Cursor) : Cursor :=
  let blanks := cursor.rest.takeWhile Text.isBlank
  ⟨cursor.rest.dropWhile Text.isBlank, blanks.foldl (fun index c => index + c.utf8Size) cursor.index⟩

/-- Nothing but a comment is left. -/
def atEnd (cursor : Cursor) : Bool :=
  cursor.rest.isEmpty || cursor.rest.head? == some '#'

/-- Read a key. -/
def key? (cursor : Cursor) : Option (String × Cursor) :=
  if cursor.rest.head?.any isKeyStart then
    let name := cursor.rest.takeWhile isKeyRest
    some (String.ofList name, ⟨cursor.rest.dropWhile isKeyRest, cursor.index + name.length⟩)
  else none

/-- Pass over an equals sign. -/
def equals? (cursor : Cursor) : Option Cursor :=
  match cursor.rest with
  | '=' :: rest => some ⟨rest, cursor.index + 1⟩
  | _ => none

/-- Read a key and the equals sign after it. A fault is the index where either is missing. -/
def keyEquals (cursor : Cursor) : Except Nat (String × Cursor) :=
  match cursor.key? with
  | none => .error cursor.index
  | some (key, after) =>
    match after.skipBlanks.equals? with
    | none => .error after.skipBlanks.index
    | some value => .ok (key, value)

/-- Read what stands before a value, and the blanks there. -/
def assignment (cursor : Cursor) : Except Nat (String × Cursor) :=
  match cursor.key? with
  | some ("export", after) =>
    match after.skipBlanks.equals? with
    | some value => .ok ("export", value.skipBlanks)
    | none => after.skipBlanks.keyEquals.map fun (key, value) => (key, value.skipBlanks)
  | _ => cursor.keyEquals.map fun (key, value) => (key, value.skipBlanks)

end Cursor

/-- The entry on a logical line, if it has one. -/
def readEntry (line : List Char) : Except Fault (Option Entry) :=
  let cursor := Cursor.skipBlanks ⟨Text.trimEnd line, 0⟩
  if cursor.atEnd then .ok none
  else
    match cursor.assignment with
    | .error index => .error (.line (String.ofList line) index)
    | .ok (key, value) =>
      if value.atEnd then .ok (some ⟨key, []⟩)
      else (readValue value.rest).map fun parts => some ⟨key, parts⟩

end EnvSeed.Dotenv
