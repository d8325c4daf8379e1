import EnvSeed.Toml.Item
import EnvSeed.Toml.Number

/-!
# Reading TOML documents

A document is read statement by statement and then put together, so it is refused when its text is
no sequence of statements and when two statements do not go together. Values nest less than 80
levels deep; elsewhere the reading is bounded by the length of the text.
-/

namespace EnvSeed.Toml

/-- Pass over blanks, line ends and comments. A character that no comment can hold is left. -/
def skipFiller : Bool → List Char → List Char
  | _, [] => []
  | false, c :: rest =>
    if isSpace c || c = '\n' then skipFiller false rest
    else if c = '#' then skipFiller true rest
    else c :: rest
  | true, c :: rest =>
    if c = '\n' then skipFiller false rest
    else if isTextChar c then skipFiller true rest
    else c :: rest

/-- Read the rest of an array. Each round of `fuel` reads one item. -/
def items? (value? : List Char → Option (Item × List Char)) :
    Nat → List Item → List Char → Option (List Item × List Char)
  | 0, _, _ => none
  | fuel + 1, done, text =>
    match skipFiller false text with
    | ']' :: rest => some (done.reverse, rest)
    | text =>
      match value? text with
      | none => none
      | some (item, rest) =>
        match skipFiller false rest with
        | ',' :: rest => items? value? fuel (item :: done) rest
        | ']' :: rest => some ((item :: done).reverse, rest)
        | _ => none

/-- Read a key, an equals sign and a value. -/
def pair? (value? : List Char → Option (Item × List Char)) (text : List Char) :
    Option ((List String × String) × Item × List Char) :=
  match key? text with
  | none => none
  | some (key, rest) =>
    match rest with
    | '=' :: rest => (value? (skipSpace rest)).map fun (item, rest) => (key, item, rest)
    | _ => none

/-- Read the rest of an inline table that has at least one more entry. -/
def pairs? (value? : List Char → Option (Item × List Char)) :
    Nat → Table → List Char → Option (Table × List Char)
  | 0, _, _ => none
  | fuel + 1, table, text =>
    match pair? value? text with
    | none => none
    | some ((path, key), item, rest) =>
      match table.insert path key item with
      | none => none
      | some table =>
        match skipSpace rest with
        | ',' :: rest => pairs? value? fuel table rest
        | '}' :: rest => some (table, rest)
        | _ => none

/-- Read a number, a boolean, a date or a time. -/
def plain? (text : List Char) : Option (Item × List Char) :=
  match text with
  | 't' :: 'r' :: 'u' :: 'e' :: rest => some (.scalar, rest)
  | 'f' :: 'a' :: 'l' :: 's' :: 'e' :: rest => some (.scalar, rest)
  | _ =>
    match dateTime? text with
    | some rest => some (.dateTime, rest)
    | none => ((float? text).or (integer? text)).map fun rest => (.scalar, rest)

/-- Read a value that nests at most `depth` levels deep. -/
def value? : Nat → List Char → Option (Item × List Char)
  | depth, text =>
    match text with
    | '[' :: rest =>
      match depth with
      | 0 => none
      | depth + 1 =>
        (items? (value? depth) (rest.length + 1) [] rest).map fun (items, rest) => (.array items, rest)
    | '\x7b' :: rest =>
      match depth with
      | 0 => none
      | depth + 1 =>
        match skipSpace rest with
        | '\x7d' :: rest => some (.table .inline [], rest)
        | rest =>
          (pairs? (value? depth) (rest.length + 1) [] rest).map fun (table, rest) =>
            (.table .inline table, rest)
    | text =>
      match string? text with
      | some (content, rest) => some (.string content, rest)
      | none => plain? text

/-- Pass over a line end, which is also the end of the text. -/
def lineEnd? : List Char → Option (List Char)
  | [] => some []
  | '\n' :: rest => some rest
  | _ => none

/-- Pass over what may follow a statement on its line. -/
def trailing? (text : List Char) : Option (List Char) :=
  match skipSpace text with
  | '#' :: rest => lineEnd? (rest.dropWhile isTextChar)
  | rest => lineEnd? rest

/-- Read the rest of a header, up to the brackets that close it. -/
def header? (brackets : List Char) (text : List Char) : Option ((List String × String) × List Char) :=
  match key? text with
  | none => none
  | some (key, rest) =>
    if brackets.isPrefixOf rest then some (key, rest.drop brackets.length) else none

/-- Read one statement, up to the end of its value or header. -/
def statement? : List Char → Option (Statement × List Char)
  | '[' :: '[' :: rest =>
    (header? [']', ']'] rest).map fun ((path, key), rest) => (.element path key, rest)
  | '[' :: rest => (header? [']'] rest).map fun ((path, key), rest) => (.table path key, rest)
  | text =>
    (pair? (value? (depthLimit - 1)) text).map fun ((path, key), item, rest) => (.pair path key item, rest)

/-- Read all statements. Each round of `fuel` reads one line. -/
def statements? : Nat → List Statement → List Char → Option (List Statement)
  | 0, _, _ => none
  | fuel + 1, done, text =>
    match skipSpace text with
    | [] => some done.reverse
    | '\n' :: rest => statements? fuel done rest
    | '#' :: rest =>
      match lineEnd? (rest.dropWhile isTextChar) with
      | none => none
      | some rest => statements? fuel done rest
    | text =>
      match statement? text with
      | none => none
      | some (statement, rest) =>
        match trailing? rest with
        | none => none
        | some rest => statements? fuel (statement :: done) rest

/-- A byte order mark at the start does not count. -/
def skipMark : List Char → List Char
  | '\ufeff' :: rest => rest
  | text => text

/-- The document a text spells. -/
def parse? (text : String) : Option Table :=
  match normalizeFrom [] (skipMark text.toList) with
  | none => none
  | some text => (statements? (text.length + 1) [] text).bind build

end EnvSeed.Toml
