import EnvSeed.Text.Decode

/-!
# Environments

An environment is a list of settings, each written `NAME=value`. A name has the value that follows
it and an equals sign in the first setting that starts so; values are bytes and need not be text.
Beside the settings there is what the system knows of the user, which nothing here decides.
-/

namespace EnvSeed

/-- The settings `NAME=value` of a process, in order, and the home directory that the system has on record for
its user, if there is one. -/
structure Environment where
  settings : List ByteArray
  userHome? : Option ByteArray := none

/-- What follows `start` at the start of `bytes`. -/
def afterStart? (start bytes : ByteArray) : Option ByteArray :=
  if bytes.extract 0 start.size = start then some (bytes.extract start.size bytes.size) else none

namespace Environment

/-- The setting that gives a name a value. -/
def setting (name : String) (value : ByteArray) : ByteArray :=
  name.toUTF8 ++ "=".toUTF8 ++ value

/-- The environment in which the given names have the given values, of a user without a home directory. -/
def ofList (named : List (String × ByteArray)) : Environment where
  settings := named.map fun (name, value) => setting name value

/-- The value of a name. No setting has an empty name or one with a NUL. -/
def value? (environment : Environment) (name : String) : Option ByteArray :=
  if name.isEmpty || name.toList.any (· == '\x00') then none
  else environment.settings.findSome? (afterStart? (setting name .empty))

/-- The value of a name, if it is text. -/
def text? (environment : Environment) (name : String) : Option String :=
  (environment.value? name).bind String.fromUTF8?

/-- The home directory: what the variable says, unless that is nothing, and otherwise that of the user. -/
def home? (environment : Environment) : Option ByteArray :=
  ((environment.value? "HOME").filter (!·.isEmpty)).or environment.userHome?

end Environment

end EnvSeed
