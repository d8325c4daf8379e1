import EnvSeed.Text.Blank
import EnvSeed.Text.Line

/-!
# Logical lines of a dotenv file

A logical line is one physical line, or several when a quote stays open over their ends. A comment
after a blank is cut off. Reading goes character by character through seven modes and is back in the
first one exactly where a logical line can end.
-/

namespace EnvSeed.Dotenv

/-- Why a dotenv file cannot be read: a line, with a place in it, or bytes that are not text. -/
inductive Fault
  | line (text : String) (index : Nat)
  | notText
  deriving DecidableEq

/-- What the last character left open. -/
inductive Mode
  | complete
  | blank
  | escape
  | weak
  | weakEscape
  | strong
  | strongEscape
  deriving DecidableEq

/-- Outside of quotes a backslash escapes, the quotes open, and anything else is ordinary. -/
def Mode.opened (c : Char) : Mode :=
  if c = '\x5c' then .escape else if c = '\x22' then .weak else if c = '\x27' then .strong else .complete

/-- The mode after one more character. -/
def Mode.next : Mode → Char → Mode
  | .complete, c => if Text.isBlank c && c != '\n' && c != '\r' then .blank else .opened c
  | .blank, c => .opened c
  | .escape, _ => .complete
  | .weak, c => if c = '\x5c' then .weakEscape else if c = '\x22' then .complete else .weak
  | .weakEscape, _ => .weak
  | .strong, c => if c = '\x5c' then .strongEscape else if c = '\x27' then .complete else .strong
  | .strongEscape, _ => .strong

/-- Read on through a physical line, with what was kept before, last character first. The mode is
absent when a comment ended the line. -/
def scan : Mode → List Char → List Char → List Char × Option Mode
  | mode, kept, [] => (kept, some mode)
  | mode, kept, c :: rest =>
    if mode = .blank && c = '#' then (kept, none) else scan (mode.next c) (c :: kept) rest

/-- Drop the line end from a reversed line. -/
def dropEnd : List Char → List Char
  | '\n' :: '\r' :: rest => rest
  | '\n' :: rest => rest
  | kept => kept

/-- The logical lines read so far, last first; the one begun, reversed; and what ended the reading. -/
structure Reader where
  done : List (List Char)
  begun : List Char
  mode : Mode
  fault : Option Fault

namespace Reader

/-- Nothing read yet. -/
def start : Reader := ⟨[], [], .complete, none⟩

/-- A logical line ends here. -/
def emit (reader : Reader) (kept : List Char) : Reader :=
  ⟨kept.reverse :: reader.done, [], .complete, none⟩

/-- Read the characters of a physical line. A comment line on its own is passed over. -/
def readText (reader : Reader) (text : List Char) : Reader :=
  if reader.begun.isEmpty && (Text.trimStart text).head? == some '#' then reader
  else
    match scan reader.mode reader.begun text with
    | (kept, none) => reader.emit kept
    | (kept, some .complete) => reader.emit (dropEnd kept)
    | (kept, some mode) => ⟨reader.done, kept, mode, none⟩

/-- Read a physical line. Nothing is read after a fault. -/
def readLine (reader : Reader) (bytes : List UInt8) : Reader :=
  if reader.fault.isSome then reader
  else
    match String.fromUTF8? ⟨bytes.toArray⟩ with
    | none => { reader with fault := some .notText }
    | some text => reader.readText text.toList

/-- The fault that the end of the file brings: a logical line has been begun. -/
def endFault? (reader : Reader) : Option Fault :=
  if reader.fault.isSome then reader.fault
  else if reader.mode = .complete then none
  else
    let text := String.ofList reader.begun.reverse
    some (.line text text.utf8ByteSize)

end Reader

/-- Read all physical lines of a file. -/
def readLines (bytes : ByteArray) : Reader :=
  (Text.cutAfter 0x0a bytes.data.toList).foldl Reader.readLine .start

end EnvSeed.Dotenv
