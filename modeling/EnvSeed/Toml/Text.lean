/-!
# TOML strings and keys

Strings stand in single or double quotes, on one line or over several; only double quotes know
escapes. A key is a path of bare or quoted names. Line ends are line feeds throughout: a carriage
return is allowed directly before a line feed only, and counts as part of it.
-/

namespace EnvSeed.Toml

/-- Drop the carriage returns before line feeds. Any other one is refused. -/
def normalizeFrom : List Char → List Char → Option (List Char)
  | done, [] => some done.reverse
  | done, '\r' :: '\n' :: rest => normalizeFrom ('\n' :: done) rest
  | done, c :: rest => if c = '\r' then none else normalizeFrom (c :: done) rest

/-- A character that may stand in comments and strings: a tab or no control. -/
def isTextChar (c : Char) : Bool :=
  c = '\t' || (' ' ≤ c && c ≠ '\x7f')

/-- A space or a tab. -/
def isSpace (c : Char) : Bool :=
  c = ' ' || c = '\t'

/-- Pass over spaces and tabs. -/
def skipSpace (text : List Char) : List Char :=
  text.dropWhile isSpace

/-- The value of a hexadecimal digit. -/
def hexDigit? (c : Char) : Option Nat :=
  if '0' ≤ c && c ≤ '9' then some (c.toNat - '0'.toNat)
  else if 'a' ≤ c && c ≤ 'f' then some (c.toNat - 'a'.toNat + 10)
  else if 'A' ≤ c && c ≤ 'F' then some (c.toNat - 'A'.toNat + 10)
  else none

/-- The character of a code point, if it has one. -/
def scalar? (value : Nat) : Option Char :=
  if value.isValidChar then some (Char.ofNat value) else none

/-- What a letter stands for after a backslash. -/
def letterEscape? (c : Char) : Option Char :=
  if c = 'b' then some '\x08' else if c = 't' then some '\t' else if c = 'n' then some '\n'
  else if c = 'f' then some '\x0c' else if c = 'r' then some '\r' else if c = '\x22' then some '\x22'
  else if c = '\x5c' then some '\x5c' else none

/-- Where in a double-quoted string the reader stands. -/
inductive Spelling
  | text
  | folded
  | escape
  | lineEnd
  | code (left value : Nat)

/-- The state after a character that follows a backslash, and the character it stands for. A line end
can only be escaped where the string may hold one. -/
def afterBackslash (multiline : Bool) (c : Char) : Option (Spelling × Option Char) :=
  if c = 'u' then some (.code 3 0, none)
  else if c = 'U' then some (.code 7 0, none)
  else if multiline && isSpace c then some (.lineEnd, none)
  else if multiline && c = '\n' then some (.folded, none)
  else (letterEscape? c).map fun meant => (.text, some meant)

/-- The state after one more digit of a code point. -/
def afterDigit (left value : Nat) (c : Char) : Option (Spelling × Option Char) :=
  match hexDigit? c with
  | none => none
  | some digit =>
    match left with
    | 0 => (scalar? (16 * value + digit)).map fun meant => (.text, some meant)
    | left + 1 => some (.code left (16 * value + digit), none)

/-- The state after any character that does not close the string. -/
def Spelling.next (multiline : Bool) : Spelling → Char → Option (Spelling × Option Char)
  | .escape, c => afterBackslash multiline c
  | .lineEnd, c => if isSpace c then some (.lineEnd, none) else if c = '\n' then some (.folded, none) else none
  | .code left value, c => afterDigit left value c
  | .folded, c =>
    if isSpace c || c = '\n' then some (.folded, none)
    else if c = '\x5c' then some (.escape, none)
    else if isTextChar c then some (.text, some c) else none
  | .text, c =>
    if c = '\x5c' then some (.escape, none)
    else if isTextChar c || (multiline && c = '\n') then some (.text, some c) else none

/-- A quote can close the string here. -/
def Spelling.closes : Spelling → Bool
  | .text | .folded => true
  | _ => false

/-- The text of reversed characters. -/
def reversedText (done : List Char) : String :=
  String.ofList done.reverse

/-- Read the rest of a string on one line, after the double quote that opens it. -/
def basicLine : Spelling → List Char → List Char → Option (String × List Char)
  | _, _, [] => none
  | spelling, done, c :: rest =>
    if spelling.closes && c = '\x22' then some (reversedText done, rest)
    else
      match spelling.next false c with
      | none => none
      | some (next, meant) => basicLine next (meant.toList ++ done) rest

/-- The quotes, at most two, that stand directly before the three that close a string of lines. -/
def closeBlock (quote : Char) (done rest : List Char) : String × List Char :=
  let extra := (rest.take 2).takeWhile (· = quote)
  (reversedText (extra ++ done), rest.drop extra.length)

/-- Read the rest of a string of lines, after the three double quotes that open it. -/
def basicBlock : Spelling → List Char → List Char → Option (String × List Char)
  | _, _, [] => none
  | spelling, done, c :: rest =>
    if spelling.closes && c = '\x22' && rest.take 2 = ['\x22', '\x22'] then
      some (closeBlock '\x22' done (rest.drop 2))
    else
      match spelling.next true c with
      | none => none
      | some (next, meant) => basicBlock next (meant.toList ++ done) rest

/-- Read the rest of a string on one line, after the single quote that opens it. -/
def literalLine (text : List Char) : Option (String × List Char) :=
  let content := text.takeWhile fun c => isTextChar c && c ≠ '\x27'
  match text.drop content.length with
  | '\x27' :: rest => some (String.ofList content, rest)
  | _ => none

/-- Read the rest of a string of lines, after the three single quotes that open it. -/
def literalBlock : List Char → List Char → Option (String × List Char)
  | _, [] => none
  | done, c :: rest =>
    if c = '\x27' && rest.take 2 = ['\x27', '\x27'] then some (closeBlock '\x27' done (rest.drop 2))
    else if isTextChar c || c = '\n' then literalBlock (c :: done) rest
    else none

/-- A line end directly after the opening quotes does not belong to the string. -/
def skipFirstLineEnd : List Char → List Char
  | '\n' :: rest => rest
  | text => text

/-- Read a string of any kind. -/
def string? : List Char → Option (String × List Char)
  | '\x22' :: '\x22' :: '\x22' :: rest => basicBlock .text [] (skipFirstLineEnd rest)
  | '\x22' :: rest => basicLine .text [] rest
  | '\x27' :: '\x27' :: '\x27' :: rest => literalBlock [] (skipFirstLineEnd rest)
  | '\x27' :: rest => literalLine rest
  | _ => none

/-- A character of a name without quotes. -/
def isBareChar (c : Char) : Bool :=
  c.isAlphanum || c = '-' || c = '_'

/-- Read one name of a key. Its quotes, if any, hold one line. -/
def name? : List Char → Option (String × List Char)
  | '\x22' :: rest => basicLine .text [] rest
  | '\x27' :: rest => literalLine rest
  | text =>
    let name := text.takeWhile isBareChar
    if name.isEmpty then none else some (String.ofList name, text.drop name.length)

/-- The number of names that no key reaches, and of levels that no value does. -/
def depthLimit : Nat := 80

/-- Read the names of a key, at most `fuel` of them, with the dots and blanks between them. -/
def names? : Nat → List Char → Option (List String × List Char)
  | 0, _ => none
  | fuel + 1, text =>
    match name? (skipSpace text) with
    | none => none
    | some (name, rest) =>
      match skipSpace rest with
      | '.' :: rest => (names? fuel rest).map fun (names, rest) => (name :: names, rest)
      | rest => some ([name], rest)

/-- Read a key: the names that lead to it, and its last name. -/
def key? (text : List Char) : Option ((List String × String) × List Char) :=
  match names? (depthLimit - 1) text with
  | none => none
  | some (names, rest) => names.getLast?.map fun last => ((names.dropLast, last), rest)

end EnvSeed.Toml
