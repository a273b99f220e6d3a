import ApiModels.Command.Basic
import ApiModels.Command.Options
import ApiModels.Report.Basic

/-!
# The command that classifies changes

Compares two artifacts, and writes a report and a summary of what has changed.
-/

namespace ApiModels

/-- What the command is asked to do. -/
structure ClassifyRequest where
  old : String
  new : String
  /-- Where the summary is written. -/
  summary : String
  /-- Where the report is written. -/
  report : String
  /-- Whether the texts count as changed, if that is given. -/
  rawChanged : Option Bool
  /-- The current version. -/
  version : Option String
  /-- A file of settings. -/
  config : Option String
  deriving DecidableEq, Repr

namespace ClassifyRequest

/-- The options of the command. -/
def options : List CommandOption :=
  [⟨"old", none, .path, false⟩, ⟨"new", none, .path, false⟩, ⟨"out", none, .path, false⟩,
    ⟨"json", none, .path, false⟩, ⟨"model-changed", none, .text, false⟩,
    ⟨"current-version", none, .text, false⟩, ⟨"config", some 'c', .text, false⟩]

/-- A truth value in words, with letters of any case and blanks around it. -/
def truth? (s : String) : Option Bool :=
  match String.ofList ((Text.trim s.toList).map Char.toLower) with
  | "true" => some true
  | "false" => some false
  | _ => none

/-- Reads what the command is asked to do. -/
def ofArguments (args : List String) : Option ClassifyRequest := do
  let given ← readOptions options args
  return {
    old := ← given.value? "old"
    new := ← given.value? "new"
    summary := ← given.value? "out"
    report := ← given.value? "json"
    rawChanged := ← match given.value? "model-changed" with
      | none => some none
      | some value => (truth? value).map some
    version := given.value? "current-version"
    config := given.value? "config" }

/-- The warning about an artifact in which nothing was recognized. -/
def warning (path : String) (artifact : Artifact) : List String :=
  if artifact.isUnrecognized then ["⚠️  No declarations recognized in " ++ path] else []

/-- What has been computed without an overflow. -/
def computed {α : Type} : Option α → Except CommandFault α
  | some a => .ok a
  | none => .error .overflow

/-- The differences between two artifacts. -/
def differences (settings : Settings) (old new : Artifact) : Diff :=
  diff settings.render old.declarations new.declarations

/-- The report on two artifacts, and the tag of the next version if the current one is given. -/
def compare (arithmetic : Arithmetic) (r : ClassifyRequest) (settings : Settings)
    (old new : Artifact) : Except CommandFault (ChangeReport × Option String) := do
  let report :=
    (ChangeReport.ofTexts (differences settings old new) old.text new.text).withRawChanged
      r.rawChanged
  match r.version with
  | none => return (report, none)
  | some s =>
    let current ← (readVersion s).mapError .processing
    let next ← computed (current.next? arithmetic report.diff.severity)
    let report ← computed (report.withVersion arithmetic current)
    return (report, some next.tag)

/-- The steps for a report. -/
def steps (r : ClassifyRequest) (report : ChangeReport) (tag : Option String) : List Step :=
  [.write r.summary (.ok report.markdown), .write r.report report.serialize,
    .say ("📄 Report written to: " ++ r.report),
    .say ("Recommended semantic version bump: " ++ report.diff.severity.name)] ++
  tag.toList.map (fun tag => .say ("Next tag: " ++ tag)) ++
  [.say ("✅ Summary written to: " ++ r.summary)]

/-- Loads an artifact for a command. -/
def loadArtifact (files : Files) (path : String) : Except CommandFault Artifact :=
  (Artifact.load files path).mapError (.loading path)

/-- Loads the settings and the two artifacts. -/
def load (r : ClassifyRequest) (files : Files) (env : Environment) :
    Except CommandFault (Settings × Artifact × Artifact) := do
  let settings ← commandSettings files env r.config
  let old ← loadArtifact files r.old
  let new ← loadArtifact files r.new
  return (settings, old, new)

/-- Loads and compares the artifacts. -/
def prepare (arithmetic : Arithmetic) (r : ClassifyRequest) (files : Files) (env : Environment) :
    Prepared :=
  match r.load files env with
  | .error fault => ⟨[], .error fault⟩
  | .ok (settings, old, new) =>
    { said := warning r.old old ++ warning r.new new
      steps :=
        match r.compare arithmetic settings old new with
        | .error fault => .error fault
        | .ok (report, tag) => .ok (r.steps report tag) }

end ClassifyRequest

end ApiModels
