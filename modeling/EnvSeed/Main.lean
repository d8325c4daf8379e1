import EnvSeed.Command.Outcome

/-!
# The program

The outer layer: it looks at the files that the command can reach, lets the command decide, and
carries out what changed.
-/

namespace EnvSeed.Main

/-- The fields of each line of a table, in which `mark` stands between them. -/
def table (mark : UInt8) (bytes : ByteArray) : List (List (List UInt8)) :=
  (bytes.data.toList.splitOn 0x0a).map (·.splitOn mark)

/-- The home directory on record for the user of this process. Users who are on record elsewhere than in the
table of this system have none here. -/
def userHome? : IO (Option ByteArray) := do
  try
    let status ← IO.FS.readBinFile "/proc/self/status"
    let users ← IO.FS.readBinFile "/etc/passwd"
    return do
      let user ← (table 0x09 status).find? (·.head? = some "Uid:".toUTF8.data.toList)
      let number ← user[1]?
      let entry ← (table 0x3a users).find? (·[2]? = some number)
      let home ← entry[5]?
      if home.isEmpty then none else some ⟨home.toArray⟩
  catch _ => return none

/-- The settings of this process, and the home directory of its user. -/
def environment : IO Environment := do
  let block ← IO.FS.readBinFile "/proc/self/environ"
  return ⟨(block.data.toList.splitOn 0).map fun setting => ⟨setting.toArray⟩, ← userHome?⟩

/-- A location as the system spells it. -/
def spelled (place : Location) : String :=
  "/" ++ "/".intercalate (place.map Text.display)

/-- What the disk holds at a location. -/
def nodeAt (place : Location) : IO (Option Node) := do
  let path := (← IO.currentDir) / spelled place
  try
    match (← path.metadata).type with
    | .dir => return some .directory
    | .file => return some (.file (← IO.FS.readBinFile path) createdMode)
    | _ => return some (.device (if place = ["dev".toUTF8, "full".toUTF8] then .full else .null))
  catch _ => return none

/-- Add what the disk holds on the way to a path. -/
def look (files : FileSystem) (path : Path) : IO FileSystem := do
  let target := files.place path
  (List.range target.length).foldlM (fun files depth => do
    let place := target.take (depth + 1)
    match ← nodeAt place with
    | some node => return files.store place node
    | none => return files) files

/-- The files that arguments can reach. -/
def gather (environment : Environment) (words : List ByteArray) : IO FileSystem := do
  let here := Path.ofString (← IO.currentDir).toString
  let start ← look ⟨[], []⟩ here
  let files := { start with workingDirectory := start.place here }
  match Arguments.parse words with
  | .error _ => return files
  | .ok arguments =>
    let files ← look files (arguments.config.getD Plan.defaultFile)
    match Plan.load environment files arguments.config arguments.overrides with
    | .error _ => return files
    | .ok plan => [plan.keyFile, plan.template, plan.output].foldlM look files

/-- Bring the disk to hold the files that are not as they were. -/
def carryOut (before after : FileSystem) : IO Unit :=
  after.entries.forM fun (place, node) => do
    match node with
    | .file content _ =>
      if before.node? place ≠ some node then
        let path := spelled place
        if (before.node? place).isNone then
          IO.FS.writeBinFile path .empty
          IO.setAccessRights path ⟨⟨true, true, false⟩, ⟨false, false, false⟩, ⟨false, false, false⟩⟩
        IO.FS.writeBinFile path content
    | _ => return

/-- Print to the standard output; whether that went well. -/
def printed (text : String) : IO Bool := do
  try
    IO.print text
    (← IO.getStdout).flush
    return true
  catch _ => return false

end EnvSeed.Main

/-- Run the command on the arguments of the process. What it says depends on whether the standard output
takes it, the files do not. -/
def main (arguments : List String) : IO UInt32 := do
  let words := arguments.map String.toUTF8
  let environment ← EnvSeed.Main.environment
  let files ← EnvSeed.Main.gather environment words
  let outcome := EnvSeed.Command.run environment files true words
  EnvSeed.Main.carryOut files outcome.files
  let accepted ← EnvSeed.Main.printed outcome.stdout
  let outcome := if accepted then outcome else EnvSeed.Command.run environment files false words
  IO.eprint outcome.stderr
  return UInt32.ofNat outcome.exit
