import EnvSeed.Failure
import EnvSeed.Text.Blank
import EnvSeed.Text.Line
import EnvSeed.Text.Quoted
import EnvSeed.Text.Search

/-!
# Key files

A key file holds a public key on its first line and a private key on its second, each after one of
two labels and a separator. Blanks around label and key do not count, and neither do later lines.
-/

namespace EnvSeed

/-- A public key and the private key that belongs to it. -/
structure KeyPair where
  verificationKey : String
  privateKey : String
  deriving DecidableEq

/-- The first fault of a labelled line, in the order separator, label, value. -/
inductive LineFault
  | noSeparator
  | unexpectedLabel (label : List Char) (accepted : List String)
  | emptyValue (label : List Char)
  deriving DecidableEq

/-- Why a text is not a key file. -/
inductive KeyFileFault
  | tooFewLines (found : Nat)
  | badLine (number : Nat) (fault : LineFault)
  deriving DecidableEq

/-- What is said of a labelled line. -/
def LineFault.reason : LineFault → String
  | noSeparator => "missing 'label: value' separator"
  | unexpectedLabel label accepted =>
    let choices := ", ".intercalate (accepted.map fun choice => s!"'{choice}'")
    s!"unexpected label '{String.ofList label}', expected one of {choices}"
  | emptyValue label => s!"empty value for '{String.ofList label}'"

/-- The failure that a fault of the file at `path` leads to. -/
def KeyFileFault.failure (path : Path) : KeyFileFault → Failure
  | tooFewLines found => .missingKeyFile path s!"expected at least 2 lines, found {found}"
  | badLine number fault => .malformedKeyFile path number fault.reason

namespace KeyFile

/-- The labels of the first line. -/
def publicLabels : List String := ["Verification Key (Address)", "Public Key (Address)"]

/-- The labels of the second line. -/
def privateLabels : List String := ["Full Private Key", "Private Key"]

/-- What stands between a label and its value. -/
def separator : List Char := [':', ' ']

/-- The value of a line with one of the accepted labels. -/
def labelled (accepted : List String) (line : List Char) : Except LineFault (List Char) :=
  match Text.cut? separator line with
  | none => .error .noSeparator
  | some (before, after) =>
    let label := Text.trim before
    let value := Text.trim after
    if !accepted.any (·.toList = label) then .error (.unexpectedLabel label accepted)
    else if value.isEmpty then .error (.emptyValue label)
    else .ok value

/-- Read the text of a key file. -/
def parse (text : List Char) : Except KeyFileFault KeyPair :=
  match Text.lines text with
  | first :: second :: _ =>
    match labelled publicLabels first with
    | .error fault => .error (.badLine 1 fault)
    | .ok verificationKey =>
      match labelled privateLabels second with
      | .error fault => .error (.badLine 2 fault)
      | .ok privateKey => .ok ⟨String.ofList verificationKey, String.ofList privateKey⟩
  | short => .error (.tooFewLines short.length)

/-- Read the key file at a path. -/
def load (files : FileSystem) (path : Path) : Except Failure KeyPair :=
  match files.readText path with
  | .error fault => .error (.missingKeyFile path (Failure.unreadable fault))
  | .ok text =>
    match parse text.toList with
    | .error fault => .error (fault.failure path)
    | .ok keys => .ok keys

end KeyFile

namespace KeyPair

/-- What is shown in place of a private key. -/
def redacted : String := "<redacted>"

/-- The key pair on one line, without the private key. -/
def summary (keys : KeyPair) : String :=
  "KeyPairRecord \x7b verification_key: " ++ Text.quote keys.verificationKey ++
    ", full_private_key: " ++ Text.quote redacted ++ " \x7d"

/-- The key pair with a line for each key, without the private key. -/
def tallSummary (keys : KeyPair) : String :=
  "KeyPairRecord \x7b\n    verification_key: " ++ Text.quote keys.verificationKey ++
    ",\n    full_private_key: " ++ Text.quote redacted ++ ",\n\x7d"

end KeyPair

end EnvSeed
