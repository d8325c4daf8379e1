/-!
# Faults of the file system

The ways in which opening, reading or writing a file can fail, each with its one text. Denied access is
not among them, nor is a device that breaks down.
-/

namespace EnvSeed

/-- Why a file could not be opened, read or written. -/
inductive FileFault
  | notFound
  | notADirectory
  | isADirectory
  | nameTooLong
  | noSpace
  | notText
  | nulInPath
  deriving DecidableEq

/-- The text of a fault, with the number of the system's error where there is one. -/
def FileFault.message : FileFault → String
  | notFound => "No such file or directory (os error 2)"
  | notADirectory => "Not a directory (os error 20)"
  | isADirectory => "Is a directory (os error 21)"
  | nameTooLong => "File name too long (os error 36)"
  | noSpace => "No space left on device (os error 28)"
  | notText => "stream did not contain valid UTF-8"
  | nulInPath => "file name contained an unexpected NUL byte"

end EnvSeed
