import EnvSeed.Plan.Basic
import EnvSeed.Seeding.Expansion
import EnvSeed.Seeding.Report

/-!
# Seeding an env file

A run reads the key file, settles on a secret, expands the template with it, writes the output and
checks what was written. Everything is read before anything is written, so a run that fails leaves
the files as they were.
-/

namespace EnvSeed

/-- The result of a run, the events it gave rise to, and the files after it. -/
structure Seeding where
  result : Except Failure Report
  events : List Event
  files : FileSystem

namespace Seeding

/-- The key file was read. -/
def keysLoaded (plan : Plan) : Event :=
  ⟨.debug, "key-pair file loaded", [("key_file", .text plan.keyFile.display)]⟩

/-- The secret is settled. -/
def secretResolved (source : SecretSource) : Event :=
  ⟨.info, "private key resolved", [("source", .text source.text)]⟩

/-- What is worth a warning about the marker: that it is missing, or that there are several. -/
def markerEvents (plan : Plan) (expansion : Expansion) : List Event :=
  let place := [("template", FieldValue.text plan.template.display), ("marker", .text plan.marker)]
  if !expansion.markerFound then [⟨.warn, "marker not found; template written unchanged", place⟩]
  else if 1 < expansion.occurrences then
    [⟨.warn, "marker appears more than once; only the first was expanded",
      place ++ [("occurrences", .number expansion.occurrences)]⟩]
  else []

/-- The output was written. -/
def outputWritten (plan : Plan) (bytes : Nat) : Event :=
  ⟨.info, "env file written", [("output", .text plan.output.display),
    ("mode", .text plan.writeMode.name), ("bytes", .number bytes)]⟩

/-- The key that a marker assigns to: what stands before an equals sign at its end. -/
def checkedKey? (marker : String) : Option String :=
  match marker.toList.reverse with
  | '=' :: key => some (String.ofList key.reverse)
  | _ => none

/-- Check the output for the key, if there is one. -/
def check (environment : Environment) (files : FileSystem) (plan : Plan) :
    Option Dotenv.Summary × List Event :=
  match checkedKey? plan.marker with
  | none => (none, [])
  | some key =>
    let (summary, event) := Dotenv.inspect environment files plan.output key
    (summary, [event])

/-- The report of a run that wrote `bytes` bytes. -/
def report (plan : Plan) (keys : KeyPair) (secret : Secret) (expansion : Expansion) (bytes : Nat)
    (summary : Option Dotenv.Summary) : Report where
  verificationKey := keys.verificationKey
  source := secret.source
  fingerprint := Secret.fingerprint secret.value
  template := plan.template
  output := plan.output
  writeMode := plan.writeMode
  marker := plan.marker
  markerFound := expansion.markerFound
  bytesWritten := bytes
  outputCheck := summary
  checkedKey := checkedKey? plan.marker

/-- One run, with the value of the override variable. -/
def run (environment : Environment) (files : FileSystem) (plan : Plan) (override : Option String) :
    Seeding :=
  match KeyFile.load files plan.keyFile with
  | .error failure => ⟨.error failure, [], files⟩
  | .ok keys =>
    let secret := Secret.choose keys plan.keyFile plan.overrideVar override
    let opening := [keysLoaded plan, secretResolved secret.source]
    match readTemplate files plan.template with
    | .error failure => ⟨.error failure, opening, files⟩
    | .ok template =>
      let expansion := Expansion.of template plan.marker secret.value
      let data := expansion.content.toUTF8
      let expanded := opening ++ markerEvents plan expansion
      let attempt := files.tryWrite plan.output plan.writeMode data
      match attempt.result with
      | .error fault => ⟨.error (.ofWrite plan.output fault), expanded, attempt.files⟩
      | .ok () =>
        let (summary, checks) := check environment attempt.files plan
        ⟨.ok (report plan keys secret expansion data.size summary),
          expanded ++ outputWritten plan data.size :: checks, attempt.files⟩

end Seeding

end EnvSeed
