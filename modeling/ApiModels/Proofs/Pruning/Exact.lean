import ApiModels.Proofs.Pruning.Sections
import ApiModels.Proofs.Reference.Closure

/-!
# Pruning keeps what is needed

A schema is `Pruner.Needed` if a kept path mentions it, or the definition of a schema that is needed
does. `prune_exact` says that a pruned document consists of the kept paths and the schemas that are
needed, each with its value, and of the sections that go with every document; and that the outcome
tells how the names of the source were split.
-/

namespace ApiModels

/-- A schema to which a kept path leads. -/
inductive Pruner.Needed (p : Pruner) (d : Document) : String → Prop
  /-- A kept path mentions the schema. -/
  | path {path name : String} {item : Json} : (path, item) ∈ d.paths → path ∈ p.keep.paths →
    item.Mentions name → name ∈ d.schemas.map (·.1) → Needed p d name
  /-- The definition of a needed schema mentions the schema. -/
  | schema {source name : String} {definition : Json} : Needed p d source →
    (source, definition) ∈ d.schemas → definition.Mentions name → name ∈ d.schemas.map (·.1) →
    Needed p d name

/-- Names in ascending order, split into those that are kept and those that are removed. -/
structure Splits (keep : String → Prop) (names kept removed : List String) : Prop where
  keeps : ∀ name, name ∈ kept ↔ name ∈ names ∧ keep name
  removes : ∀ name, name ∈ removed ↔ name ∈ names ∧ ¬ keep name
  partition : (kept ++ removed).Perm names
  keptSorted : kept.Pairwise (· < ·)
  removedSorted : removed.Pairwise (· < ·)

/-- The outcome of a pruning that keeps what is needed and nothing else. -/
structure PruneOutcome.IsExact (p : Pruner) (d : Document) (o : PruneOutcome) : Prop where
  /-- What was assembled is accepted as the document. -/
  accepted : Document.ofJson (.object (p.keptMembers d)) = .ok o.document
  paths : ∀ path item, (path, item) ∈ o.document.paths ↔
    (path, item) ∈ d.paths ∧ path ∈ p.keep.paths
  schemas : ∀ name schema, (name, schema) ∈ o.document.schemas ↔
    (name, schema) ∈ d.schemas ∧ p.Needed d name
  openapi : o.document.field? "openapi" = some ((d.field? "openapi").getD (.text "3.0.1"))
  info : o.document.field? "info" = some ((d.field? "info").getD (.object []))
  servers : o.document.field? "servers" = some ((d.field? "servers").getD (.list []))
  sections : ∀ name ∈ o.document.members.map (·.1),
    name ∈ ["components", "info", "openapi", "paths", "security", "servers"]
  components : ∃ components, o.document.field? "components" = some (.object components) ∧
    ∀ name ∈ components.map (·.1), name ∈ ["schemas", "securitySchemes"]
  splitsPaths : Splits (· ∈ p.keep.paths) (d.paths.map (·.1)) o.keptPaths o.removedPaths
  splitsSchemas : Splits (p.Needed d) (d.schemas.map (·.1)) o.keptSchemas o.removedSchemas
  /-- The paths to keep that the source does not have, in ascending order. -/
  skipped : ∀ path, path ∈ o.skippedPaths ↔ path ∈ p.keep.paths ∧ path ∉ d.paths.map (·.1)
  skippedSorted : o.skippedPaths.Pairwise (· < ·)
  summary : o.summary =
    ⟨d.paths.length, o.keptPaths.length, d.schemas.length, o.keptSchemas.length⟩

namespace Pruner

variable (p : Pruner) (d : Document)

theorem mem_seeds {name : String} : name ∈ p.seeds d ↔
    ∃ path item, (path, item) ∈ d.paths ∧ path ∈ p.keep.paths ∧ item.Mentions name := by
  simp only [seeds, keptPaths, mem_nameSet, List.mem_flatMap, List.mem_filter,
    Json.mem_referenceNames, OperationSet.contains, List.contains_iff_mem, Prod.exists, and_assoc]

theorem get?_ofDocument {name : String} {schema : Json} :
    (ReferenceGraph.ofDocument d).get? name = some schema ↔ (name, schema) ∈ d.schemas :=
  lookup_eq_some_iff_mem (Json.sorted_object_iff.1 d.sorted_schemas).1.nodup_keys

/-- **The schemas that are reached are those that are needed.** -/
theorem mem_reachable {name : String} : name ∈ p.reachable d ↔ p.Needed d name := by
  unfold reachable
  rw [ReferenceGraph.mem_closure]
  constructor
  · intro h
    induction h with
    | seed hseed hname =>
      obtain ⟨path, item, hpath, hkeep, hmentions⟩ := (p.mem_seeds d).1 hseed
      exact .path hpath hkeep hmentions hname
    | step _ hedge ih =>
      obtain ⟨schema, hschema, hmentions, hname⟩ := ReferenceGraph.mem_refsOut.1 hedge
      exact .schema ih ((get?_ofDocument d).1 hschema) hmentions hname
  · intro h
    induction h with
    | path hpath hkeep hmentions hname =>
      exact .seed ((p.mem_seeds d).2 ⟨_, _, hpath, hkeep, hmentions⟩) hname
    | schema _ hschema hmentions hname ih =>
      exact .step ih (ReferenceGraph.mem_refsOut.2
        ⟨_, (get?_ofDocument d).2 hschema, hmentions, hname⟩)

theorem splits_filter {names : List String} (hnames : names.Pairwise (· < ·)) {keep : String → Prop}
    {test : String → Bool} (htest : ∀ name, test name = true ↔ keep name) :
    Splits keep names (names.filter test) (names.filter (!test ·)) := by
  refine ⟨fun name => ?_, fun name => ?_, List.filter_append_perm test names, hnames.filter _,
    hnames.filter _⟩
  · rw [List.mem_filter, htest]
  · rw [List.mem_filter, Bool.not_eq_true', ← Bool.not_eq_true, htest]

theorem splits_paths : Splits (· ∈ p.keep.paths) (d.paths.map (·.1)) (p.prune d).keptPaths
    (p.prune d).removedPaths := by
  have hsorted := ascending_iff_keys.1 (Json.sorted_object_iff.1 d.sorted_paths).1
  have hkept : (p.prune d).keptPaths = (d.paths.map (·.1)).filter p.keep.contains := by
    rw [List.filter_map]
    rfl
  rw [hkept]
  exact splits_filter hsorted fun path => List.contains_iff_mem

theorem splits_schemas : Splits (p.Needed d) (d.schemas.map (·.1)) (p.prune d).keptSchemas
    (p.prune d).removedSchemas := by
  have hsorted := ascending_iff_keys.1 (Json.sorted_object_iff.1 d.sorted_schemas).1
  have hkept : (p.prune d).keptSchemas =
      (d.schemas.map (·.1)).filter (p.reachable d).contains := by
    rw [List.filter_map]
    rfl
  rw [hkept]
  exact splits_filter hsorted fun name => List.contains_iff_mem.trans (p.mem_reachable d)

/-- **Pruning keeps exactly what is needed.** -/
theorem prune_exact : (p.prune d).IsExact p d := by
  constructor
  case accepted => exact p.ofJson_keptMembers d
  case paths =>
    intro path item
    rw [paths_prune, keptPaths, List.mem_filter]
    exact and_congr_right fun _ => List.contains_iff_mem
  case schemas =>
    intro name schema
    rw [schemas_prune, keptSchemas, List.mem_filter]
    exact and_congr_right fun _ => List.contains_iff_mem.trans (p.mem_reachable d)
  case openapi => exact p.field?_openapi d
  case info => exact p.field?_info d
  case servers => exact p.field?_servers d
  case sections => exact p.keys_members_subset d
  case components => exact ⟨_, p.field?_components d, p.keys_keptComponents_subset d⟩
  case splitsPaths => exact p.splits_paths d
  case splitsSchemas => exact p.splits_schemas d
  case skipped =>
    intro path
    simp only [prune, List.mem_filter, Option.isNone_iff_eq_none, lookup_eq_none_iff_not_mem_keys]
  case skippedSorted => exact p.keep.ascending.filter _
  case summary => simp [prune]

end Pruner

end ApiModels
