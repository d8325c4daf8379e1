import EnvSeed.Environment

/-!
# Help

The text that explains the arguments. Its headings and its literal words can be styled by terminal
escape sequences, which the environment can ask for and forbid; without them it is the same text.
-/

namespace EnvSeed.Help

/-- How a piece of the text stands out. -/
inductive Style
  | plain
  | literal
  | heading
  deriving DecidableEq

/-- A piece of the text in one style. -/
structure Span where
  style : Style
  text : String
  deriving DecidableEq

/-- The sequence that switches a style on. -/
def Style.opening : Style → String
  | plain => ""
  | literal => "\x1b[1m"
  | heading => "\x1b[1m\x1b[4m"

/-- The sequence that switches a style off. -/
def Style.closing : Style → String
  | plain => ""
  | literal | heading => "\x1b[0m"

/-- A span as it is printed. -/
def Span.render (styled : Bool) (span : Span) : String :=
  if styled then span.style.opening ++ span.text ++ span.style.closing else span.text

/-- A piece in no style. -/
def plain (text : String) : Span := ⟨.plain, text⟩

/-- A word that is typed as it stands. -/
def literal (text : String) : Span := ⟨.literal, text⟩

/-- What a part of the text begins with. -/
def heading (text : String) : Span := ⟨.heading, text⟩

/-- The line of an option with a letter. -/
def lettered (letter name about : String) : List Span :=
  [plain "  ", literal letter, plain ", ", literal name, plain about]

/-- The line of an option without a letter. -/
def unlettered (name about : String) : List Span :=
  [plain "      ", literal name, plain about]

/-- The lines of the text. -/
def lines : List (List Span) :=
  [[plain "Write a .env file from a sample template and a key-pair file"],
    [],
    [heading "Usage:", plain " ", literal "envboot", plain " [OPTIONS]"],
    [],
    [heading "Options:"],
    lettered "-c" "--config" " <CONFIG>        Path to configuration file (default: envboot.toml if present)",
    lettered "-k" "--keys" " <KEYS>            Override key-pair file",
    lettered "-t" "--template" " <TEMPLATE>    Override sample template",
    lettered "-o" "--output" " <OUTPUT>        Override output env file",
    unlettered "--replace" "                Truncate the output instead of appending to it",
    unlettered "--log-level" " <LOG_LEVEL>  Override log level (trace, debug, info, warn, error)",
    lettered "-h" "--help" "                   Print help"]

/-- The text, with its styles or without. -/
def text (styled : Bool) : String :=
  String.join (lines.map fun spans => String.join (spans.map (Span.render styled)) ++ "\n")

/-- A variable has a value that is not empty. -/
def isGiven (environment : Environment) (name : String) : Bool :=
  (environment.value? name).any (!·.isEmpty)

/-- Output that goes to no terminal is styled when that is forced and not forbidden. -/
def isStyled (environment : Environment) : Bool :=
  isGiven environment "CLICOLOR_FORCE" && !isGiven environment "NO_COLOR"

end EnvSeed.Help
