import ApiModels.Command.Basic
import ApiModels.Command.Options
import ApiModels.Swift.Source

/-!
# The command that generates

Compiles a document, and writes the source of the declarations and a structured snapshot of them.
-/

namespace ApiModels

/-- Where the snapshot is written. -/
inductive SnapshotChoice where
  /-- Beside the source. -/
  | beside
  | path (path : String)
  /-- Nowhere. -/
  | omitted
  deriving DecidableEq, Repr

/-- What the command is asked to do. -/
structure GenerateRequest where
  input : String
  output : String
  snapshot : SnapshotChoice
  /-- A file of settings. -/
  config : Option String
  deriving DecidableEq, Repr

namespace GenerateRequest

/-- The options of the command. -/
def options : List CommandOption :=
  [⟨"input", some 'i', .path, false⟩, ⟨"output", some 'o', .path, false⟩,
    ⟨"snapshot", none, .path, false⟩, ⟨"no-snapshot", none, .flag, false⟩,
    ⟨"config", some 'c', .text, false⟩]

/-- Where the snapshot is asked for; its two options exclude each other. -/
def snapshotChoice (given : GivenOptions) : Option SnapshotChoice :=
  match given.value? "snapshot", given.has "no-snapshot" with
  | some _, true => none
  | some path, false => some (.path path)
  | none, true => some .omitted
  | none, false => some .beside

/-- Reads what the command is asked to do. -/
def ofArguments (args : List String) : Option GenerateRequest := do
  let given ← readOptions options args
  return {
    input := ← given.value? "input"
    output := ← given.value? "output"
    snapshot := ← snapshotChoice given
    config := given.value? "config" }

/-- The path of the snapshot, if one is written. -/
def snapshotPath? (r : GenerateRequest) : Option String :=
  match r.snapshot with
  | .beside => some (Artifact.snapshotPath r.output)
  | .path path => some path
  | .omitted => none

/-- The steps that make the folder of the source. -/
def folderSteps (r : GenerateRequest) : List Step :=
  let folder := Path.parentPath r.output
  if folder = "" then [] else [.createFolder folder]

/-- The steps that write the text of a snapshot. -/
def snapshotSteps (r : GenerateRequest) (text : String) (checksum : Checksum) : List Step :=
  match r.snapshotPath? with
  | none => []
  | some path =>
    [.write path (.ok text),
      .say ("✅ Snapshot written to: " ++ path ++ " (" ++ checksum.short ++ ")")]

/-- The steps for declarations that have been compiled, with the text of their snapshot. -/
def steps (r : GenerateRequest) (models : CompiledModels) (text : String) (checksum : Checksum) :
    List Step :=
  r.folderSteps ++
  [.write r.output (.ok models.source), .say ("✅ Generated models written to: " ++ r.output)] ++
  r.snapshotSteps text checksum ++
  [.say ("Generated " ++ toString models.enumCount ++ " enums and " ++
    toString models.recordCount ++ " structs")]

/-- Compiles a document, and settles what is written of it. Both texts of the snapshot are
serialized before anything is written. -/
def settle (r : GenerateRequest) (document : Document) (settings : Settings) :
    Except CommandFault (List Step) := do
  let models ← (compile document settings).mapError fun reference =>
    .processing (.unresolved reference)
  let text ← (models.snapshot.serialize Json.pretty).mapError fun fault =>
    .processing (.unserialized fault)
  let compact ← (models.snapshot.serialize Json.compact).mapError fun fault =>
    .processing (.unserialized fault)
  return r.steps models text (.ofText compact)

/-- The serializer does not refuse a snapshot, so only compiling can fail. -/
theorem settle_eq (r : GenerateRequest) (document : Document) (settings : Settings) :
    r.settle document settings =
      match compile document settings with
      | .error reference => .error (.processing (.unresolved reference))
      | .ok models => .ok (r.steps models models.snapshot.pretty models.snapshot.checksum) := by
  unfold settle
  cases compile document settings with
  | error reference => rfl
  | ok models =>
    simp only [Snapshot.serialize_eq_ok]
    rfl

/-- Reads and compiles the document. -/
def prepare (r : GenerateRequest) (files : Files) (env : Environment) : Prepared :=
  match commandSettings files env r.config with
  | .error fault => ⟨[], .error fault⟩
  | .ok settings =>
    match Document.load files r.input with
    | .error failure => ⟨[], .error (.reading r.input failure)⟩
    | .ok document =>
      { said :=
          ["📖 Loaded " ++ r.input ++ " (" ++ toString document.schemas.length ++ " schemas)"]
        steps := r.settle document settings }

end GenerateRequest

end ApiModels
