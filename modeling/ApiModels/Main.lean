import ApiModels.Command.Run

/-!
# The command line

The first argument names a program and the others are its arguments. What the program may read is
brought into a state of the files, the program prepares over it, and then its steps are performed.
-/

open ApiModels

namespace ApiModels.CommandLine

/-! ### Reading -/

/-- The paths of all that a path leads through, and the path itself. -/
def pathsAlong (path : String) : List String :=
  let segments := Path.segments path
  (List.range segments.length).map fun n => String.intercalate "/" (segments.take (n + 1))

/-- What is at a path, if it can be read. -/
def entryAt? (path : String) : IO (Option FileEntry) := do
  try
    let bytes ← IO.FS.readBinFile path
    return some (.file (.ofBytes bytes.data.toList))
  catch
    | .inappropriateType _ 21 _ => return some .folder
    | _ => return none

/-- The files at the given paths, as far as they can be read. -/
def filesAt (paths : List String) : IO Files := do
  let current := (Path.segments (← IO.currentDir).toString).filter (!Path.isHere ·)
  let mut files := Files.ofList current []
  for path in paths.flatMap pathsAlong do
    if let some entry ← entryAt? path then
      files := files.insert path entry
  return files

/-- A variable of the environment from its name and value with an equals sign between them. -/
def namedValue? (cs : List Char) : Option (String × String) :=
  match cs.dropWhile (· != '=') with
  | _ :: value => some (String.ofList (cs.takeWhile (· != '=')), String.ofList value)
  | [] => none

/-- The variables of the environment, as far as they can be read. -/
def environment : IO Environment := do
  try
    let bytes ← IO.FS.readBinFile "/proc/self/environ"
    let content := FileContent.ofBytes bytes.data.toList
    return (Text.fields (· == '\x00') content.lossyText.toList).filterMap namedValue?
  catch _ => return []

/-! ### Writing -/

/-- The fault that an error stands for. -/
def fault? : IO.Error → Option FileFault
  | .noFileOrDirectory .. => some .notFound
  | .inappropriateType _ 21 _ => some .isFolder
  | .inappropriateType .. => some .notFolder
  | .alreadyExists .. => some .exists
  | _ => none

/-- The path and the text of the file that a step writes, if it writes one. -/
def written? : Step → Except CommandFault (Option (String × String))
  | .say _ | .createFolder _ => .ok none
  | .write path text =>
    match text with
    | .ok text => .ok (some (path, text))
    | .error fault => .error (.processing (.unserialized fault))
  | .save path document =>
    match document.serialize with
    | .ok text => .ok (some (path, text))
    | .error fault => .error (.saving path (.unserialized fault))

/-- Says what a step says, and makes the folder or writes the file. -/
def perform (step : Step) (written : Option (String × String)) : IO Unit := do
  match step with
  | .say line => IO.println line
  | .createFolder path => IO.FS.createDirAll path
  | .write .. | .save .. =>
    if let some (path, text) := written then
      IO.FS.writeFile path text

/-- What is wrong with a step that failed. -/
def stepFault (fault : FileFault) : Step → CommandFault
  | .say _ => .processing (.file fault)
  | .createFolder path => .creating path fault
  | .write path _ => .writing path fault
  | .save path _ => .saving path (.file fault)

/-- Tells a fault, and ends with its status. -/
def complain (fault : CommandFault) : IO UInt32 := do
  IO.eprint (complaintText fault)
  return fault.exit.toUInt32

/-- Performs steps up to the first one that fails. -/
def performSteps : List Step → IO UInt32
  | [] => return 0
  | step :: steps => do
    match written? step with
    | .error fault => complain fault
    | .ok written =>
      try
        perform step written
      catch error =>
        match fault? error with
        | some fault => return ← complain (stepFault fault step)
        | none =>
          IO.eprintln error
          return 1
      performSteps steps

/-- Runs a command on the files that are there. Sums are checked. -/
def runCommand (command : Command) : IO UInt32 := do
  let prepared := command.prepare .checked (← filesAt command.readPaths) (← environment)
  IO.print (outputText prepared.said)
  match prepared.steps with
  | .error fault => complain fault
  | .ok steps => performSteps steps

/-- What is said about arguments that cannot be read. -/
def usage : String :=
  "usage: PROGRAM OPTIONS, where PROGRAM is one of " ++
    String.intercalate ", " (Program.known.map (·.1))

end ApiModels.CommandLine

/-- Runs the program that the first argument names. -/
def main (args : List String) : IO UInt32 := do
  let command? := match args with
    | [] => none
    | name :: args => (Program.known.lookup name).bind (·.command? args)
  match command? with
  | some command => CommandLine.runCommand command
  | none =>
    IO.eprintln CommandLine.usage
    return 2
