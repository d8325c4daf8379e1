import EnvSeed.FileSystem.Access

/-!
# Failures

What can end a seeding without a report, by the part that gave up, with the one text each is
reported in.
-/

namespace EnvSeed

/-- The layout of a key file, as messages state it. -/
def keyFileLayout : String :=
  "line 1 'Verification Key (Address): <value>', line 2 'Full Private Key: <value>'"

/-- Why there is no report. -/
inductive Failure
  | missingKeyFile (path : Path) (reason : String)
  | malformedKeyFile (path : Path) (line : Nat) (reason : String)
  | missingTemplate (path : Path) (reason : String)
  | config (reason : String)
  | logger (reason : String)
  | io (reason : String)
  deriving DecidableEq

namespace Failure

/-- The text of a failure. -/
def message : Failure → String
  | missingKeyFile path reason => s!"key file {path.display}: {reason} (expected {keyFileLayout})"
  | malformedKeyFile path line reason =>
    s!"key file {path.display} line {line}: {reason} (expected {keyFileLayout})"
  | missingTemplate path reason =>
    s!"template {path.display}: {reason} (expected a text file containing the marker)"
  | config reason => s!"config error: {reason}"
  | logger reason => s!"logger error: {reason}"
  | io reason => s!"io error: {reason}"

/-- What is said of an input file that cannot be read. -/
def unreadable : FileFault → String
  | .notFound => "file not found"
  | fault => s!"cannot read: {fault.message}"

/-- The failure of a write to a path. -/
def ofWrite (path : Path) : WriteFault → Failure
  | .opening fault => io s!"cannot open {path.display}: {fault.message}"
  | .writing fault => io s!"cannot write {path.display}: {fault.message}"

end Failure

end EnvSeed
