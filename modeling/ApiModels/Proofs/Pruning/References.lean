import ApiModels.Proofs.Compilation.Pruning

/-!
# References of a pruned document

Pruning keeps whatever a kept path or a kept schema refers to. So a reference of the pruned document
names a schema if it named one in the source: what dangles dangled before, and what compiles before
a pruning compiles after it (`prune_keepsReferences`).
-/

namespace ApiModels

/-- The outcome of a pruning that leaves every reference with the schema that it had. -/
structure PruneOutcome.KeepsReferences (d : Document) (o : PruneOutcome) : Prop where
  /-- The dangling references are those of the source that stand in a kept schema. -/
  dangling : (ReferenceGraph.ofDocument o.document).dangling =
    (ReferenceGraph.ofDocument d).dangling.filter fun edge => o.keptSchemas.contains edge.1
  /-- A kept schema refers to the same schemas. -/
  refsOut : ∀ name ∈ o.keptSchemas,
    (ReferenceGraph.ofDocument o.document).refsOut name =
      (ReferenceGraph.ofDocument d).refsOut name
  /-- What a kept path refers to is still there. -/
  paths : ∀ path item target, (path, item) ∈ o.document.paths → item.Mentions target →
    target ∈ d.schemas.map (·.1) → target ∈ o.document.schemas.map (·.1)
  /-- What compiled still compiles. -/
  compiles : ∀ settings models, compile d settings = .ok models →
    ∃ pruned, compile o.document settings = .ok pruned

namespace Pruner

variable (p : Pruner) (d : Document)

/-- **Pruning leaves every reference with the schema that it had.** -/
theorem prune_keepsReferences : (p.prune d).KeepsReferences d := by
  constructor
  case dangling => exact p.dangling_ofDocument_prune d
  case refsOut =>
    intro name hname
    rw [p.ofDocument_prune d]
    exact ReferenceGraph.refsOut_restrict (p.isClosed_keptSchemas d) (List.contains_iff_mem.2 hname)
  case paths =>
    intro path item target hpath hmentions htarget
    rw [paths_prune, keptPaths, List.mem_filter] at hpath
    have hkeep : path ∈ p.keep.paths := List.contains_iff_mem.1 hpath.2
    have hkept : target ∈ (p.prune d).keptSchemas :=
      (p.mem_keptSchemas_prune d).2 ⟨htarget, .path hpath.1 hkeep hmentions htarget⟩
    rw [schemas_prune]
    exact hkept
  case compiles =>
    intro settings models hcompile
    obtain ⟨hdangling, -⟩ := compile_eq_ok_iff.1 hcompile
    exact ⟨_, compile_eq_ok_iff.2 ⟨p.dangling_prune hdangling, rfl⟩⟩

end Pruner

end ApiModels
