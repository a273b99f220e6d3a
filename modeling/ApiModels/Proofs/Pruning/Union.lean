import ApiModels.Proofs.Pruning.Narrowing
import Mathlib.Data.List.Sort

/-!
# Pruning to the paths of two sets

What is kept for two sets of paths together is what is kept for each of them: a schema is needed for
the union exactly if it is needed for one of the sets (`needed_union_iff`). The security part does
not depend on the paths. And a pruning to fewer paths can be done in two steps, first to the larger
set. `prune_union` puts this together.
-/

namespace ApiModels

/-- The paths of both sets. -/
def OperationSet.union (a b : OperationSet) : OperationSet := ofList (a.paths ++ b.paths)

@[simp] theorem OperationSet.mem_paths_union {a b : OperationSet} {path : String} :
    path ∈ (a.union b).paths ↔ path ∈ a.paths ∨ path ∈ b.paths := by
  simp [union, ofList]

/-- The outcome of a pruning to a set of paths. -/
def Document.prunedTo (d : Document) (extra : List String) (keep : OperationSet) : PruneOutcome :=
  Pruner.prune ⟨keep, extra⟩ d

/-- Two outcomes have the same security part. -/
structure PruneOutcome.SharesSecurity (o o' : PruneOutcome) : Prop where
  requirements : o.document.field? "security" = o'.document.field? "security"
  schemes : o.document.component? "securitySchemes" = o'.document.component? "securitySchemes"

/-- What a pruning to two sets of paths has to do with the prunings to each of them. -/
structure Document.PrunesByUnion (d : Document) (extra : List String) (a b : OperationSet) :
    Prop where
  /-- The names that are kept, in ascending order. -/
  keptPaths : (d.prunedTo extra (a.union b)).keptPaths =
    nameSet ((d.prunedTo extra a).keptPaths ++ (d.prunedTo extra b).keptPaths)
  keptSchemas : (d.prunedTo extra (a.union b)).keptSchemas =
    nameSet ((d.prunedTo extra a).keptSchemas ++ (d.prunedTo extra b).keptSchemas)
  /-- What is kept, with its values. -/
  paths : ∀ entry, entry ∈ (d.prunedTo extra (a.union b)).document.paths ↔
    entry ∈ (d.prunedTo extra a).document.paths ∨ entry ∈ (d.prunedTo extra b).document.paths
  schemas : ∀ entry, entry ∈ (d.prunedTo extra (a.union b)).document.schemas ↔
    entry ∈ (d.prunedTo extra a).document.schemas ∨ entry ∈ (d.prunedTo extra b).document.schemas
  security : ∀ keep ∈ [a, b],
    (d.prunedTo extra keep).SharesSecurity (d.prunedTo extra (a.union b))
  /-- The larger set may be pruned to first. -/
  inSteps : a.paths ⊆ b.paths →
    ((d.prunedTo extra b).document.prunedTo extra a).document = (d.prunedTo extra a).document

section Union

variable {d : Document} {extra : List String} {a b : OperationSet}

/-- **A schema is needed for two sets of paths if it is needed for one of them.** -/
theorem needed_union_iff {name : String} : Pruner.Needed ⟨a.union b, extra⟩ d name ↔
    Pruner.Needed ⟨a, extra⟩ d name ∨ Pruner.Needed ⟨b, extra⟩ d name := by
  have hleft : Pruner.Narrows ⟨a, extra⟩ ⟨a.union b, extra⟩ :=
    ⟨fun _ hpath => OperationSet.mem_paths_union.2 (.inl hpath), rfl⟩
  have hright : Pruner.Narrows ⟨b, extra⟩ ⟨a.union b, extra⟩ :=
    ⟨fun _ hpath => OperationSet.mem_paths_union.2 (.inr hpath), rfl⟩
  refine ⟨fun h => ?_, fun h => h.elim (·.mono hleft) (·.mono hright)⟩
  -- The chain of schemas starts at a path of one of the sets and stays with this set.
  induction h with
  | path hpath hkeep hmentions hname =>
    rcases OperationSet.mem_paths_union.1 hkeep with hkeep | hkeep
    · exact .inl (.path hpath hkeep hmentions hname)
    · exact .inr (.path hpath hkeep hmentions hname)
  | schema _ hdefinition hmentions hname ih =>
    rcases ih with hsource | hsource
    · exact .inl (.schema hsource hdefinition hmentions hname)
    · exact .inr (.schema hsource hdefinition hmentions hname)

theorem mem_paths_prunedTo_union {entry : String × Json} :
    entry ∈ (d.prunedTo extra (a.union b)).document.paths ↔
      entry ∈ (d.prunedTo extra a).document.paths ∨
        entry ∈ (d.prunedTo extra b).document.paths := by
  obtain ⟨path, item⟩ := entry
  simp only [Document.prunedTo, Pruner.mem_paths_prune, OperationSet.mem_paths_union, and_or_left]

theorem mem_schemas_prunedTo_union {entry : String × Json} :
    entry ∈ (d.prunedTo extra (a.union b)).document.schemas ↔
      entry ∈ (d.prunedTo extra a).document.schemas ∨
        entry ∈ (d.prunedTo extra b).document.schemas := by
  obtain ⟨name, schema⟩ := entry
  simp only [Document.prunedTo, Pruner.mem_schemas_prune, needed_union_iff, and_or_left]

theorem eq_nameSet_append {α : Type} {entries left right : List (String × α)}
    (hsorted : Ascending entries) (h : ∀ entry, entry ∈ entries ↔ entry ∈ left ∨ entry ∈ right) :
    entries.map (·.1) = nameSet (left.map (·.1) ++ right.map (·.1)) := by
  refine (ascending_iff_keys.1 hsorted).eq_of_mem_iff (pairwise_nameSet _) fun name => ?_
  simp only [mem_nameSet, List.mem_append, List.mem_map, h, or_and_right, exists_or]

theorem sharesSecurity_prunedTo (d : Document) (extra : List String) (a b : OperationSet) :
    (d.prunedTo extra a).SharesSecurity (d.prunedTo extra b) where
  requirements :=
    (Pruner.field?_security ⟨a, extra⟩ d).trans (Pruner.field?_security ⟨b, extra⟩ d).symm
  schemes := (Pruner.component?_securitySchemes ⟨a, extra⟩ d).trans
    (Pruner.component?_securitySchemes ⟨b, extra⟩ d).symm

/-- **Pruning distributes over the paths that are kept**, and a pruning to fewer paths can be done
in steps. -/
theorem prune_union (d : Document) (extra : List String) (a b : OperationSet) :
    d.PrunesByUnion extra a b where
  keptPaths := by
    have hkept : ∀ keep, (d.prunedTo extra keep).keptPaths =
        (d.prunedTo extra keep).document.paths.map (·.1) :=
      fun keep => congrArg (List.map _) (Pruner.paths_prune ⟨keep, extra⟩ d).symm
    rw [hkept, hkept, hkept]
    exact eq_nameSet_append (Json.sorted_object_iff.1 (Document.sorted_paths _)).1
      fun _ => mem_paths_prunedTo_union
  keptSchemas := by
    have hkept : ∀ keep, (d.prunedTo extra keep).keptSchemas =
        (d.prunedTo extra keep).document.schemas.map (·.1) :=
      fun keep => congrArg (List.map _) (Pruner.schemas_prune ⟨keep, extra⟩ d).symm
    rw [hkept, hkept, hkept]
    exact eq_nameSet_append (Json.sorted_object_iff.1 (Document.sorted_schemas _)).1
      fun _ => mem_schemas_prunedTo_union
  paths _ := mem_paths_prunedTo_union
  schemas _ := mem_schemas_prunedTo_union
  security keep _ := sharesSecurity_prunedTo d extra keep (a.union b)
  inSteps hsubset := Pruner.document_prune_of_narrows ⟨hsubset, rfl⟩

end Union

end ApiModels
