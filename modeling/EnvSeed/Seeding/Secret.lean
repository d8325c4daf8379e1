import EnvSeed.Environment
import EnvSeed.Seeding.KeyFile
import EnvSeed.Sha256

/-!
# The secret in use

The secret is the private key of the key file unless the override variable has a value; an empty
value is as good as none. Of a secret only its fingerprint is shown.
-/

namespace EnvSeed

/-- Where a secret came from. -/
inductive SecretSource
  | keyFile (path : Path)
  | environment (name : String)
  deriving DecidableEq

/-- The source as it appears in messages. -/
def SecretSource.text : SecretSource → String
  | keyFile path => s!"key file {path.display}"
  | environment name => s!"environment variable {name}"

/-- A secret and where it came from. -/
structure Secret where
  value : String
  source : SecretSource
  deriving DecidableEq

namespace Secret

/-- The value of the override variable, which has to be text if it is set. -/
def given (environment : Environment) (name : String) : Except Failure (Option String) :=
  match environment.value? name with
  | none => .ok none
  | some bytes =>
    match String.fromUTF8? bytes with
    | none => .error (.config s!"{name} is set but not valid UTF-8")
    | some text => .ok (some text)

/-- The secret in use: a value that was given and is not empty, else the private key. -/
def choose (keys : KeyPair) (keyFile : Path) (overrideVar : String) (value : Option String) : Secret :=
  match value.filter (!·.isEmpty) with
  | some value => ⟨value, .environment overrideVar⟩
  | none => ⟨keys.privateKey, .keyFile keyFile⟩

/-- The first eight digits of the hash of a secret. -/
def fingerprint (secret : String) : String :=
  String.ofList ((Sha256.hexDigest secret.toUTF8).take 8)

end Secret

end EnvSeed
