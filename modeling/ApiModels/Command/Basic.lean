import ApiModels.Stored

/-!
# Commands in two stages

A command first prepares: it reads all that it needs, says something about it, and either fails or
settles the steps that are left (`Prepared`). Only the steps change files (`Step.perform`). A step
fails if a file or folder cannot be written, or if what it should write cannot be serialized. A
command that fails tells why and ends with status 1, unless the program stops at a sum that
overflows.
-/

namespace ApiModels

/-- Why a command failed. -/
inductive CommandFault where
  | settings (fault : SettingsFault)
  | reading (path : String) (failure : Failure)
  | loading (path : String) (failure : Failure)
  | processing (failure : Failure)
  | creating (path : String) (fault : FileFault)
  | writing (path : String) (fault : FileFault)
  | saving (path : String) (failure : Failure)
  /-- The program stops at a sum. -/
  | overflow
  deriving DecidableEq, Repr

namespace CommandFault

/-- The words for a fault, with its causes. -/
def message : CommandFault → String
  | settings fault => "failed to load configuration: " ++ fault.message
  | reading path failure => "failed to read " ++ path ++ ": " ++ failure.explanation
  | loading path failure => "failed to load " ++ path ++ ": " ++ failure.explanation
  | processing failure => failure.explanation
  | creating path fault => "failed to create " ++ path ++ ": " ++ fault.message
  | writing path fault => "failed to write " ++ path ++ ": " ++ fault.message
  | saving path failure => "failed to write " ++ path ++ ": " ++ failure.explanation
  | overflow => "attempt to add with overflow"

/-- The status with which a command ends that fails. -/
def exit : CommandFault → Nat
  | overflow => 101
  | settings .. | reading .. | loading .. | processing .. | creating .. | writing .. | saving .. =>
    1

end CommandFault

/-! ### Steps -/

/-- A step of a command that has prepared. -/
inductive Step where
  | say (line : String)
  | createFolder (path : String)
  /-- Writes a text, if there is one. -/
  | write (path : String) (text : Except SerializeFault String)
  | save (path : String) (document : Document)

/-- The line that a step says. -/
def Step.line? : Step → Option String
  | say line => some line
  | createFolder .. | write .. | save .. => none

/-- Performs a step. -/
def Step.perform (files : Files) : Step → Except CommandFault Files
  | say _ => .ok files
  | createFolder path => (files.createFolders path).mapError (.creating path)
  | write path text => do
    let text ← text.mapError fun fault => .processing (.unserialized fault)
    (files.writeText path text).mapError (.writing path)
  | save path document => (document.save files path).mapError (.saving path)

/-- What is left after the steps of a command. -/
structure Performed where
  /-- The lines that were said. -/
  said : List String
  files : Files
  /-- The fault of the step that failed. -/
  fault : Option CommandFault

/-- Performs steps up to the first one that fails. -/
def performAll (files : Files) : List Step → Performed
  | [] => ⟨[], files, none⟩
  | step :: steps =>
    match step.perform files with
    | .error fault => ⟨[], files, some fault⟩
    | .ok files =>
      let performed := performAll files steps
      { performed with said := step.line?.toList ++ performed.said }

/-! ### Commands -/

/-- A command that has prepared. -/
structure Prepared where
  /-- The lines that were said. -/
  said : List String
  /-- The steps that are left, or why there are none. -/
  steps : Except CommandFault (List Step)

/-- What a command leaves behind. -/
structure CommandOutcome where
  exit : Nat
  /-- The text that was said. -/
  output : String
  /-- The text of the error. -/
  complaint : String
  files : Files

/-- Lines as a text. -/
def outputText (lines : List String) : String := String.join (lines.map (· ++ "\n"))

/-- The text of an error. -/
def complaintText (fault : CommandFault) : String :=
  match fault with
  | .overflow => fault.message ++ "\n"
  | _ => "❌ Error: " ++ fault.message ++ "\n"

/-- Performs the steps of a command that has prepared. -/
def Prepared.run (p : Prepared) (files : Files) : CommandOutcome :=
  match p.steps with
  | .error fault => ⟨fault.exit, outputText p.said, complaintText fault, files⟩
  | .ok steps =>
    let performed := performAll files steps
    let output := outputText (p.said ++ performed.said)
    match performed.fault with
    | some fault => ⟨fault.exit, output, complaintText fault, performed.files⟩
    | none => ⟨0, output, "", performed.files⟩

/-- Loads settings for a command. -/
def commandSettings (files : Files) (env : Environment) (path : Option String) :
    Except CommandFault Settings :=
  (Settings.load files env path).mapError .settings

end ApiModels
