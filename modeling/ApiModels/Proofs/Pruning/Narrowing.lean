import ApiModels.Proofs.Pruning.Exact
import ApiModels.Proofs.Pruning.Security

/-!
# Pruning what was pruned

A pruner is narrower than another if it keeps no other paths and has the same extra schemes
(`Pruner.Narrows`). What the narrower one needs is needed by the wider one too, so it is still there
after the wider pruning, and the same is needed in the pruned document as in the source
(`needed_prune_iff`). The security part was completed by the wider pruning, and the narrower one
leaves it as it is. Hence the narrower pruning makes the same document of both
(`document_prune_of_narrows`).
-/

namespace ApiModels

namespace Pruner

/-- The first pruner keeps paths of the second only, with the same extra schemes. -/
structure Narrows (p q : Pruner) : Prop where
  paths : p.keep.paths ⊆ q.keep.paths
  schemes : p.extraSchemes = q.extraSchemes

theorem Narrows.refl (p : Pruner) : p.Narrows p := ⟨List.Subset.refl _, rfl⟩

/-! ### Security of a pruned document -/

section Security

variable (p : Pruner) (d : Document)

theorem keptSchemes_prune : (p.prune d).document.keptSchemes p.extraSchemes =
    d.keptSchemes p.extraSchemes := by
  rw [Document.keptSchemes, securitySchemes?_prune, security?_prune, List.filter_eq_self]
  rintro ⟨scheme, definition⟩ hscheme
  rw [Document.keptSchemes, List.mem_filter] at hscheme
  simp only [Bool.or_eq_true, List.contains_iff_mem,
    Document.mem_mentionedSchemes_keptSecurity] at hscheme ⊢
  rcases hscheme.2 with hrequired | hextra
  · exact .inl (.inl hrequired)
  · exact .inr hextra

theorem addedRequirements_prune :
    (p.prune d).document.addedRequirements p.extraSchemes = [] := by
  rw [Document.addedRequirements, securitySchemes?_prune, security?_prune, List.map_eq_nil_iff,
    List.eq_nil_iff_forall_not_mem]
  intro scheme hscheme
  obtain ⟨hextra, hkept, hlisted⟩ := mem_unlistedSchemes.1 hscheme
  -- An extra scheme that is left was defined in the source, so the first pruning required it.
  have hdefined : scheme ∈ (d.securitySchemes?.getD []).map (·.1) :=
    (List.filter_sublist.map _).subset hkept
  exact hlisted ((d.mem_mentionedSchemes_keptSecurity _).2 (.inr ⟨hextra, hdefined⟩))

theorem keptSecurity_prune : (p.prune d).document.keptSecurity p.extraSchemes =
    d.keptSecurity p.extraSchemes := by
  rw [Document.keptSecurity, addedRequirements_prune, security?_prune]
  cases d.keptSecurity p.extraSchemes with
  | none => rfl
  | some requirements => simp

end Security

/-! ### Paths and schemas of a pruned document -/

variable {p q : Pruner} {d : Document}

theorem Needed.mono (h : p.Narrows q) {name : String} (hneeded : p.Needed d name) :
    q.Needed d name := by
  induction hneeded with
  | path hpath hkeep hmentions hname => exact .path hpath (h.paths hkeep) hmentions hname
  | schema _ hdefinition hmentions hname ih => exact .schema ih hdefinition hmentions hname

theorem mem_paths_prune {path : String} {item : Json} :
    (path, item) ∈ (p.prune d).document.paths ↔ (path, item) ∈ d.paths ∧ path ∈ p.keep.paths := by
  rw [paths_prune, keptPaths, List.mem_filter]
  exact and_congr_right fun _ => List.contains_iff_mem

theorem mem_schemas_prune {name : String} {schema : Json} :
    (name, schema) ∈ (p.prune d).document.schemas ↔
      (name, schema) ∈ d.schemas ∧ p.Needed d name := by
  rw [schemas_prune, keptSchemas, List.mem_filter]
  exact and_congr_right fun _ => List.contains_iff_mem.trans (p.mem_reachable d)

theorem mem_keys_schemas_prune {name : String} :
    name ∈ (p.prune d).document.schemas.map (·.1) ↔
      name ∈ d.schemas.map (·.1) ∧ p.Needed d name := by
  simp only [List.mem_map, Prod.exists, mem_schemas_prune, exists_and_right, exists_eq_right]

/-- **What is needed in the document that a wider pruning leaves is what is needed in the source.**
-/
theorem needed_prune_iff (h : p.Narrows q) {name : String} :
    p.Needed (q.prune d).document name ↔ p.Needed d name := by
  constructor
  · intro hneeded
    induction hneeded with
    | path hpath hkeep hmentions hname =>
      exact .path (mem_paths_prune.1 hpath).1 hkeep hmentions (mem_keys_schemas_prune.1 hname).1
    | schema _ hdefinition hmentions hname ih =>
      exact .schema ih (mem_schemas_prune.1 hdefinition).1 hmentions
        (mem_keys_schemas_prune.1 hname).1
  · -- A schema that is needed for fewer paths is left by the wider pruning.
    intro hneeded
    induction hneeded with
    | path hpath hkeep hmentions hname =>
      have hwider := (Needed.path hpath hkeep hmentions hname).mono h
      exact .path (mem_paths_prune.2 ⟨hpath, h.paths hkeep⟩) hkeep hmentions
        (mem_keys_schemas_prune.2 ⟨hname, hwider⟩)
    | schema hsource hdefinition hmentions hname ih =>
      have hwider := (Needed.schema hsource hdefinition hmentions hname).mono h
      exact .schema ih (mem_schemas_prune.2 ⟨hdefinition, hsource.mono h⟩) hmentions
        (mem_keys_schemas_prune.2 ⟨hname, hwider⟩)

theorem keptPaths_prune_of_narrows (h : p.Narrows q) :
    p.keptPaths (q.prune d).document = p.keptPaths d := by
  rw [keptPaths, paths_prune, keptPaths, keptPaths, List.filter_filter]
  refine List.filter_congr fun entry _ => ?_
  rw [Bool.and_eq_left_iff_imp]
  intro hkeep
  exact List.contains_iff_mem.2 (h.paths (List.contains_iff_mem.1 hkeep))

theorem keptSchemas_prune_of_narrows (h : p.Narrows q) :
    p.keptSchemas (q.prune d).document = p.keptSchemas d := by
  rw [keptSchemas, schemas_prune, keptSchemas, keptSchemas, List.filter_filter]
  refine List.filter_congr fun entry _ => ?_
  rw [Bool.eq_iff_iff]
  simp only [Bool.and_eq_true, List.contains_iff_mem, mem_reachable, needed_prune_iff h]
  exact ⟨fun hboth => hboth.1, fun hneeded => ⟨hneeded, hneeded.mono h⟩⟩

/-- **A narrower pruning after a wider one makes the document that it makes of the source.** -/
theorem document_prune_of_narrows (h : p.Narrows q) :
    (p.prune (q.prune d).document).document = (p.prune d).document := by
  have hcomponents : p.keptComponents (q.prune d).document = p.keptComponents d := by
    rw [keptComponents, keptComponents, keptSchemas_prune_of_narrows h, h.schemes,
      keptSchemes_prune]
  refine Document.ext ?_
  rw [members_prune, members_prune, keptMembers, hcomponents, keptPaths_prune_of_narrows h,
    h.schemes, keptSecurity_prune, field?_info, field?_openapi, field?_servers, keptMembers,
    h.schemes]
  rfl

end Pruner

end ApiModels
