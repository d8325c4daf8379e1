import EnvSeed.Plan.Load

/-!
# Command-line arguments

Arguments are read from left to right. An option takes its value from its own word or from the next
one; a value in the next word is settled only when the next option or the end is reached, so a word
that is no option at all is reported first.
-/

namespace EnvSeed

/-- An option that takes a value. -/
inductive Setting
  | config
  | keys
  | template
  | output
  | logLevel
  deriving DecidableEq

/-- Anything that can be named by a word with dashes. -/
inductive Flag
  | setting (setting : Setting)
  | replace
  | help
  deriving DecidableEq

/-- Why arguments are not acted on. -/
inductive Refusal
  | unknownArgument
  | invalidValue
  | argumentConflict
  | tooManyValues
  | notText
  | helpRequested
  deriving DecidableEq

/-- What the arguments ask for. -/
structure Arguments where
  config : Option Path := none
  keys : Option Path := none
  template : Option Path := none
  output : Option Path := none
  logLevel : Option String := none
  replace : Bool := false
  deriving DecidableEq

/-- The long name of an option that takes a value. -/
def Setting.longName : Setting → String
  | config => "config"
  | keys => "keys"
  | template => "template"
  | output => "output"
  | logLevel => "log-level"

/-- The letter of an option that takes a value, if it has one. -/
def Setting.letter? : Setting → Option UInt8
  | config => some 0x63
  | keys => some 0x6b
  | template => some 0x74
  | output => some 0x6f
  | logLevel => none

/-- The options that take a value. -/
def Setting.all : List Setting := [config, keys, template, output, logLevel]

/-- The flag of a long name, which is never shortened. -/
def Flag.ofName? (name : List UInt8) : Option Flag :=
  if name = "replace".toUTF8.data.toList then some .replace
  else if name = "help".toUTF8.data.toList then some .help
  else (Setting.all.find? fun setting => setting.longName.toUTF8.data.toList = name).map .setting

/-- The flag of a letter. -/
def Flag.ofLetter? (letter : UInt8) : Option Flag :=
  if letter = 0x68 then some .help
  else (Setting.all.find? fun setting => setting.letter? = some letter).map .setting

/-- A word of the command line: the end of the options, an option by its name or its letter, or
anything else. -/
inductive Word
  | separator
  | long (name : List UInt8) (value : Option (List UInt8))
  | short (letter : UInt8) (attached : List UInt8)
  | plain

/-- The two parts around the first equals sign, the second one without it. -/
def splitEquals (text : List UInt8) : List UInt8 × Option (List UInt8) :=
  match text.dropWhile (· ≠ 0x3d) with
  | [] => (text, none)
  | _ :: value => (text.takeWhile (· ≠ 0x3d), some value)

/-- What kind of word the bytes of an argument are. A single dash is no option. -/
def Word.of : List UInt8 → Word
  | 0x2d :: 0x2d :: [] => .separator
  | 0x2d :: 0x2d :: rest => .long (splitEquals rest).1 (splitEquals rest).2
  | 0x2d :: letter :: rest => .short letter rest
  | _ => .plain

/-- The value in the word of an option's letter, behind an equals sign if there is one. -/
def attachedValue? : List UInt8 → Option (List UInt8)
  | [] => none
  | 0x3d :: value => some value
  | value => some value

namespace Arguments

/-- A path given as an option's value. -/
def path (value : List UInt8) : Except Refusal Path :=
  if value.isEmpty then .error .invalidValue else .ok ⟨⟨value.toArray⟩⟩

/-- A log level given as an option's value. -/
def level (value : List UInt8) : Except Refusal String :=
  match String.fromUTF8? ⟨value.toArray⟩ with
  | none => .error .notText
  | some text => .ok text

/-- Give a field that is not set yet its value. -/
def once {α : Type} (old : Option α) (value : Except Refusal α) : Except Refusal (Option α) :=
  if old.isSome then .error .argumentConflict else value.map some

/-- Give an option its value. -/
def assign (arguments : Arguments) (setting : Setting) (value : List UInt8) : Except Refusal Arguments :=
  match setting with
  | .config => (once arguments.config (path value)).map fun config => { arguments with config }
  | .keys => (once arguments.keys (path value)).map fun keys => { arguments with keys }
  | .template => (once arguments.template (path value)).map fun template => { arguments with template }
  | .output => (once arguments.output (path value)).map fun output => { arguments with output }
  | .logLevel => (once arguments.logLevel (level value)).map fun logLevel => { arguments with logLevel }

/-- Ask for the replacing write mode. -/
def setReplace (arguments : Arguments) : Except Refusal Arguments :=
  if arguments.replace then .error .argumentConflict else .ok { arguments with replace := true }

/-- An option whose word has no value, and the next word if that is its value. -/
structure Pending where
  setting : Setting
  value : Option (List UInt8)

/-- Give the option before this point its value. -/
def settle (arguments : Arguments) : Option Pending → Except Refusal Arguments
  | none => .ok arguments
  | some ⟨_, none⟩ => .error .invalidValue
  | some ⟨setting, some value⟩ => arguments.assign setting value

/-- Read an option that takes a value. Without one of its own it waits for the next word. -/
def readSetting (arguments : Arguments) (setting : Setting) :
    Option (List UInt8) → Except Refusal (Arguments × Option Pending)
  | none => .ok (arguments, some ⟨setting, none⟩)
  | some value => (arguments.assign setting value).map fun arguments => (arguments, none)

/-- Read an option, with the value in its own word. -/
def readFlag (arguments : Arguments) (pending : Option Pending) (flag : Flag)
    (value : Option (List UInt8)) : Except Refusal (Arguments × Option Pending) :=
  match flag with
  | .setting setting => do (← arguments.settle pending).readSetting setting value
  | .replace =>
    if value.isSome then .error .tooManyValues
    else do return (← (← arguments.settle pending).setReplace, none)
  | .help =>
    if value.isSome then .error .tooManyValues
    else do
      let _ ← arguments.settle pending
      .error .helpRequested

/-- Read the next word. -/
def readWord (arguments : Arguments) (pending : Option Pending) (word : List UInt8) :
    Except Refusal (Arguments × Option Pending) :=
  match Word.of word with
  | .separator => .error .unknownArgument
  | .long name value =>
    match Flag.ofName? name with
    | none => .error .unknownArgument
    | some flag => arguments.readFlag pending flag value
  | .short letter attached =>
    match Flag.ofLetter? letter with
    | none => .error .unknownArgument
    | some .help => arguments.readFlag pending .help none
    | some flag => arguments.readFlag pending flag (attachedValue? attached)
  | .plain =>
    match pending with
    | some ⟨setting, none⟩ => .ok (arguments, some ⟨setting, some word⟩)
    | _ => .error .unknownArgument

/-- Read words up to the end. Nothing may follow the end of the options. -/
def readFrom (arguments : Arguments) (pending : Option Pending) :
    List (List UInt8) → Except Refusal Arguments
  | [] => arguments.settle pending
  | word :: rest =>
    match Word.of word, rest with
    | .separator, [] => arguments.settle pending
    | _, _ =>
      match arguments.readWord pending word with
      | .error refusal => .error refusal
      | .ok (arguments, pending) => arguments.readFrom pending rest

/-- Read the arguments after the name of the program. -/
def parse (words : List ByteArray) : Except Refusal Arguments :=
  readFrom {} none (words.map (·.data.toList))

/-- What the arguments ask for beside the configuration file. -/
def overrides (arguments : Arguments) : Overrides where
  keyFile := arguments.keys
  template := arguments.template
  output := arguments.output
  writeMode := if arguments.replace then some .replace else none
  logLevel := arguments.logLevel

end Arguments

end EnvSeed
