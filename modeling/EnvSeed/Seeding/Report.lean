import EnvSeed.Dotenv.Inspection
import EnvSeed.Seeding.Secret

/-!
# Reports

What a seeding did, without the secret itself: of it only a fingerprint is kept. A report is
rendered as one line per fact.
-/

namespace EnvSeed

/-- What one seeding did. The output is checked for a key when the marker assigns one. -/
structure Report where
  verificationKey : String
  source : SecretSource
  fingerprint : String
  template : Path
  output : Path
  writeMode : WriteMode
  marker : String
  markerFound : Bool
  bytesWritten : Nat
  outputCheck : Option Dotenv.Summary
  checkedKey : Option String
  deriving DecidableEq

namespace Report

/-- The line about the check of the output, if there was one. -/
def checkLines (report : Report) : List String :=
  match report.outputCheck, report.checkedKey with
  | some check, some key =>
    let state := if check.keyDefined then "set" else "not set"
    [s!"  dotenv check   : {check.entries} entries, {key} {state}"]
  | _, _ => []

/-- The line about a marker that was not there. -/
def markerLines (report : Report) : List String :=
  if report.markerFound then []
  else [s!"! marker '{report.marker}' not found in {report.template.display}; template written unchanged"]

/-- The lines of a report. -/
def lines (report : Report) : List String :=
  [s!"✓ {report.output.display} bootstrapped",
    s!"  public key     : {report.verificationKey}",
    s!"  private key    : from {report.source.text}",
    s!"  fingerprint    : {report.fingerprint}",
    s!"  output         : {report.output.display} ({report.writeMode.name}, {report.bytesWritten} bytes)"] ++
    report.checkLines ++ report.markerLines

/-- The text of a report. -/
def render (report : Report) : String :=
  String.join (report.lines.map (· ++ "\n"))

end Report

end EnvSeed
