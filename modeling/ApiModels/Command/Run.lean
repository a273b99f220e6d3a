import ApiModels.Command.Classify
import ApiModels.Command.Generate
import ApiModels.Command.Prune

/-!
# Running commands

The programs by their names, and what each of them does with its arguments over a state of the files
(`Program.run`).
-/

namespace ApiModels

/-- The programs. -/
inductive Program where
  | specPrune
  | modelGenerate
  | modelClassify
  deriving DecidableEq, Repr

/-- The names of the programs. -/
def Program.known : List (String × Program) :=
  [("spec-prune", .specPrune), ("model-generate", .modelGenerate),
    ("model-classify", .modelClassify)]

/-- A program with what it is asked to do. -/
inductive Command where
  | prune (request : PruneRequest)
  | generate (request : GenerateRequest)
  | classify (request : ClassifyRequest)
  deriving DecidableEq, Repr

/-- Reads the arguments of a program. -/
def Program.command? (program : Program) (args : List String) : Option Command :=
  match program with
  | .specPrune => (PruneRequest.ofArguments args).map .prune
  | .modelGenerate => (GenerateRequest.ofArguments args).map .generate
  | .modelClassify => (ClassifyRequest.ofArguments args).map .classify

namespace Command

/-- Does all of a command that comes before its first step. -/
def prepare (arithmetic : Arithmetic) (command : Command) (files : Files) (env : Environment) :
    Prepared :=
  match command with
  | prune request => request.prepare files env
  | generate request => request.prepare files env
  | classify request => request.prepare arithmetic files env

/-- Runs a command. -/
def run (arithmetic : Arithmetic) (command : Command) (files : Files) (env : Environment) :
    CommandOutcome :=
  (command.prepare arithmetic files env).run files

/-- The explicit file of settings. -/
def config? : Command → Option String
  | prune request => request.config
  | generate request => request.config
  | classify request => request.config

/-- The documents and artifacts that a command reads. -/
def inputs : Command → List String
  | prune request => [request.input]
  | generate request => [request.input]
  | classify request => [request.old, request.new]

/-- The paths of all files that a command may read. -/
def readPaths (command : Command) : List String :=
  (SettingsSource.places ++ command.config?.toList).flatMap settingsPaths ++
    command.inputs.flatMap fun path => [path, Artifact.snapshotPath path]

end Command

/-- Runs a program. Wrong arguments end it before it does anything. -/
def Program.run (arithmetic : Arithmetic) (program : Program) (args : List String) (files : Files)
    (env : Environment) : CommandOutcome :=
  match program.command? args with
  | none => ⟨2, "", "", files⟩
  | some command => command.run arithmetic files env

end ApiModels
