import ApiModels.Proofs.Pruning.Narrowing

/-!
# Pruning a pruned document

A pruned document has nothing left to prune. A pruner narrows itself, so the second pruning makes
the same document (`document_prune`). The paths of a pruned document are all kept and lead to all of
its schemas, so nothing is removed. `prune_repeated` says what the outcome of the second pruning is.
-/

namespace ApiModels

namespace Pruner

variable (p : Pruner) (d : Document)

theorem keptPaths_prune : p.keptPaths (p.prune d).document = p.keptPaths d :=
  keptPaths_prune_of_narrows (.refl p)

theorem keptSchemas_prune : p.keptSchemas (p.prune d).document = p.keptSchemas d :=
  keptSchemas_prune_of_narrows (.refl p)

theorem document_prune : (p.prune (p.prune d).document).document = (p.prune d).document :=
  document_prune_of_narrows (.refl p)

theorem mem_reachable_prune {entry : String × Json} (h : entry ∈ p.keptSchemas d) :
    entry.1 ∈ p.reachable (p.prune d).document := by
  rw [← schemas_prune] at h
  exact (p.mem_reachable _).2 ((needed_prune_iff (.refl p)).2 (mem_schemas_prune.1 h).2)

theorem removedPaths_prune : (p.prune (p.prune d).document).removedPaths = [] := by
  show ((p.prune d).document.paths.map (·.1)).filter _ = []
  rw [paths_prune, List.filter_eq_nil_iff]
  intro path hpath
  obtain ⟨entry, hentry, rfl⟩ := List.mem_map.1 hpath
  simp [(List.mem_filter.1 hentry).2]

theorem removedSchemas_prune : (p.prune (p.prune d).document).removedSchemas = [] := by
  show ((p.prune d).document.schemas.map (·.1)).filter _ = []
  rw [schemas_prune, List.filter_eq_nil_iff]
  intro name hname
  obtain ⟨entry, hentry, rfl⟩ := List.mem_map.1 hname
  simp [p.mem_reachable_prune d hentry]

/-- A path to keep is missing in the pruned document exactly if the source has no such path. -/
theorem skippedPaths_prune :
    (p.prune (p.prune d).document).skippedPaths = (p.prune d).skippedPaths := by
  show p.keep.paths.filter _ = p.keep.paths.filter _
  refine List.filter_congr fun path hpath => ?_
  have hlookup : (p.keptPaths d).lookup path = d.paths.lookup path :=
    lookup_filter (List.contains_iff_mem.2 hpath)
  rw [paths_prune, hlookup]

/-- **Pruning a second time changes nothing.** The document is the same, no path and no schema is
removed from it, and the same paths to keep are skipped. -/
theorem prune_repeated : p.prune (p.prune d).document =
    { p.prune d with
      removedPaths := []
      removedSchemas := []
      summary :=
        { allPaths := (p.prune d).keptPaths.length
          keptPaths := (p.prune d).keptPaths.length
          allSchemas := (p.prune d).keptSchemas.length
          keptSchemas := (p.prune d).keptSchemas.length } } := by
  have hkeptPaths : (p.prune (p.prune d).document).keptPaths = (p.prune d).keptPaths :=
    congrArg (List.map _) (p.keptPaths_prune d)
  have hkeptSchemas : (p.prune (p.prune d).document).keptSchemas = (p.prune d).keptSchemas :=
    congrArg (List.map _) (p.keptSchemas_prune d)
  have hsummary : (p.prune (p.prune d).document).summary =
      ⟨(p.prune d).keptPaths.length, (p.prune d).keptPaths.length,
        (p.prune d).keptSchemas.length, (p.prune d).keptSchemas.length⟩ := by
    show PruneSummary.mk _ _ _ _ = _
    rw [keptPaths_prune, keptSchemas_prune, paths_prune, schemas_prune]
    simp [prune]
  show PruneOutcome.mk _ _ _ _ _ _ _ = PruneOutcome.mk _ _ _ _ _ _ _
  rw [PruneOutcome.mk.injEq]
  exact ⟨p.document_prune d, hkeptPaths, p.removedPaths_prune d, hkeptSchemas,
    p.removedSchemas_prune d, p.skippedPaths_prune d, hsummary⟩

end Pruner

end ApiModels
