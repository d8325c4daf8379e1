import EnvSeed.Command.Arguments
import EnvSeed.Command.Help
import EnvSeed.Plan.Load
import EnvSeed.Seeding.Run

/-!
# The command

An invocation goes through four stages: load the plan, read the log level, read the override, seed
the output. The first stage that fails decides the outcome. Events are shown from
the second stage on, as far as the level lets them through.
-/

namespace EnvSeed

/-- What an invocation leaves behind. -/
structure Outcome where
  exit : Nat
  stdout : String
  stderr : String
  files : FileSystem

namespace Command

/-- The plan was loaded. -/
def configLoaded (plan : Plan) : Event :=
  ⟨.info, "config loaded", [("key_file", .text plan.keyFile.display),
    ("template", .text plan.template.display), ("output", .text plan.output.display),
    ("mode", .text plan.writeMode.name)]⟩

/-- The line that reports a failure. -/
def errorLine (failure : Failure) : String :=
  s!"error: {failure.message}\n"

/-- The outcome of a failure, after a log. -/
def failed (files : FileSystem) (log : String) (failure : Failure) : Outcome :=
  ⟨1, "", log ++ errorLine failure, files⟩

/-- The outcome of a run of the last stage. A report that cannot be printed is a failure too. -/
def finish (stdoutAccepts : Bool) (filter : LevelFilter) (plan : Plan) (seeding : Seeding) : Outcome :=
  let log := Event.log filter (configLoaded plan :: seeding.events)
  match seeding.result with
  | .error failure => failed seeding.files log failure
  | .ok report =>
    if stdoutAccepts then ⟨0, report.render, log, seeding.files⟩
    else failed seeding.files log (.io FileFault.noSpace.message)

/-- Act on arguments. -/
def execute (environment : Environment) (files : FileSystem) (stdoutAccepts : Bool)
    (arguments : Arguments) : Outcome :=
  match Plan.load environment files arguments.config arguments.overrides with
  | .error failure => failed files "" failure
  | .ok plan =>
    match LevelFilter.parse plan.logLevel with
    | .error failure => failed files "" failure
    | .ok filter =>
      match Secret.given environment plan.overrideVar with
      | .error failure => failed files (Event.log filter [configLoaded plan]) failure
      | .ok override =>
        finish stdoutAccepts filter plan (Seeding.run environment files plan override)

/-- The outcome of arguments that are not acted on: help, or nothing but an exit code. Help that cannot
be printed is no failure. What is said on the standard error of words that are refused is the usage text of
the reader of arguments, and left out. -/
def refused (environment : Environment) (files : FileSystem) (stdoutAccepts : Bool) : Refusal → Outcome
  | .helpRequested => ⟨0, if stdoutAccepts then Help.text (Help.isStyled environment) else "", "", files⟩
  | _ => ⟨2, "", "", files⟩

/-- One invocation. -/
def run (environment : Environment) (files : FileSystem) (stdoutAccepts : Bool)
    (words : List ByteArray) : Outcome :=
  match Arguments.parse words with
  | .error refusal => refused environment files stdoutAccepts refusal
  | .ok arguments => execute environment files stdoutAccepts arguments

end Command

end EnvSeed
