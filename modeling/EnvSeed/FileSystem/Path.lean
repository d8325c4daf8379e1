import EnvSeed.Text.Decode

/-!
# Paths

A path is a string of bytes, which need not be text. Joining puts a path below a directory unless
the path is absolute, in which case it stands for itself.
-/

namespace EnvSeed

/-- A path as it was given. -/
structure Path where
  bytes : ByteArray
  deriving DecidableEq

namespace Path

/-- The byte between two names. -/
def separator : UInt8 := 0x2f

/-- The path a text spells. -/
def ofString (text : String) : Path :=
  ⟨text.toUTF8⟩

/-- The path as it appears in messages. -/
def display (path : Path) : String :=
  Text.display path.bytes

/-- A path that starts at the root. -/
def isAbsolute (path : Path) : Bool :=
  path.bytes.data[0]? == some separator

/-- A path that ends with a slash. -/
def endsWithSeparator (path : Path) : Bool :=
  path.bytes.data.back? == some separator

/-- The path `tail` seen from the directory `base`. A slash is added only where `base` lacks one. -/
def join (base tail : Path) : Path :=
  if tail.isAbsolute then tail
  else if base.bytes.isEmpty || base.endsWithSeparator then ⟨base.bytes ++ tail.bytes⟩
  else ⟨base.bytes ++ ⟨#[separator]⟩ ++ tail.bytes⟩

/-- The names between the slashes, empty ones included. -/
def names (path : Path) : List ByteArray :=
  (path.bytes.data.toList.splitOn separator).map fun name => ⟨name.toArray⟩

/-- A path spelled as text shows as that text. -/
theorem display_ofString (text : String) : (ofString text).display = text :=
  Text.display_toUTF8 text

end Path

end EnvSeed
