import ApiModels.Command.Basic
import ApiModels.Command.Options
import ApiModels.Pruning.Basic

/-!
# The command that prunes

Reduces a document to operation paths that are given or set.
-/

namespace ApiModels

/-- What the command is asked to do. -/
structure PruneRequest where
  input : String
  output : String
  /-- The paths to keep instead of those of the settings, unless there are none. -/
  keep : List String
  /-- A file of settings. -/
  config : Option String
  deriving DecidableEq, Repr

namespace PruneRequest

/-- The options of the command. -/
def options : List CommandOption :=
  [⟨"input", some 'i', .path, false⟩, ⟨"output", some 'o', .path, false⟩,
    ⟨"keep", some 'k', .text, true⟩, ⟨"config", some 'c', .text, false⟩]

/-- Reads what the command is asked to do. -/
def ofArguments (args : List String) : Option PruneRequest := do
  let given ← readOptions options args
  return {
    input := ← given.value? "input"
    output := ← given.value? "output"
    keep := given.values "keep"
    config := given.value? "config" }

/-- The pruner for a request. -/
def pruner (r : PruneRequest) (settings : Settings) : Pruner where
  keep := .ofList (if r.keep.isEmpty then settings.prune.keepPaths else r.keep)
  extraSchemes := settings.prune.extraSchemes

/-- What is said before the document is read. -/
def heading (r : PruneRequest) (pruner : Pruner) : List String :=
  ["📖 Input: " ++ r.input, "🔑 Keeping " ++ toString pruner.keep.size ++ " operations",
    "📝 Output: " ++ r.output]

/-- The steps for a document that has been pruned. -/
def steps (r : PruneRequest) (outcome : PruneOutcome) : List Step :=
  [.save r.output outcome.document, .say "", .say outcome.summary.text,
    .say ("✅ Pruned document saved to: " ++ r.output)]

/-- Reads and prunes the document. -/
def prepare (r : PruneRequest) (files : Files) (env : Environment) : Prepared :=
  match commandSettings files env r.config with
  | .error fault => ⟨[], .error fault⟩
  | .ok settings =>
    let pruner := r.pruner settings
    match Document.load files r.input with
    | .error failure => ⟨r.heading pruner, .error (.reading r.input failure)⟩
    | .ok document =>
      let outcome := pruner.prune document
      { said := r.heading pruner ++
          outcome.skippedPaths.map ("⚠️  Not in document, skipped: " ++ ·)
        steps := .ok (r.steps outcome) }

end PruneRequest

end ApiModels
