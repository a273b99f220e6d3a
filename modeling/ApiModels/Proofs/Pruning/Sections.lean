import ApiModels.Proofs.Keyed.Lookup
import ApiModels.Pruning.Basic

/-!
# Sections of a pruned document

Each section of a pruned document is read back as what was put into it, and there is no other
section. The assembled members are accepted as a document (`ofJson_keptMembers`).
-/

namespace ApiModels

theorem Document.ofJson_toJson (d : Document) : Document.ofJson d.toJson = .ok d := by
  have hcanonical : d.toJson.canonical = .object d.members :=
    Json.canonical_eq_self d.toJson d.sorted
  unfold Document.ofJson
  split
  · next members hvalue =>
    rw [hcanonical] at hvalue
    cases hvalue
    split
    · next malformation hsections => exact absurd hsections (by simp [d.sections])
    · rfl
  · next hvalue => exact absurd hcanonical (hvalue d.members)

namespace Pruner

variable (p : Pruner) (d : Document)

/-- Pruning succeeds: what it assembles is a document. -/
theorem ofJson_keptMembers :
    Document.ofJson (.object (p.keptMembers d)) = .ok (p.prune d).document :=
  (p.prune d).document.ofJson_toJson

theorem members_prune : (p.prune d).document.members = p.keptMembers d := rfl

theorem field?_components : (p.prune d).document.field? "components" =
    some (.object (p.keptComponents d)) := by
  simp [Document.field?, members_prune, keptMembers]

theorem field?_info : (p.prune d).document.field? "info" =
    some ((d.field? "info").getD (.object [])) := by
  simp [Document.field?, members_prune, keptMembers, List.lookup_cons]

theorem field?_openapi : (p.prune d).document.field? "openapi" =
    some ((d.field? "openapi").getD (.text "3.0.1")) := by
  simp [Document.field?, members_prune, keptMembers, List.lookup_cons]

theorem field?_servers : (p.prune d).document.field? "servers" =
    some ((d.field? "servers").getD (.list [])) := by
  rw [Document.field?, members_prune, keptMembers]
  cases d.keptSecurity p.extraSchemes <;> simp [List.lookup_cons]

@[simp] theorem paths_prune : (p.prune d).document.paths = p.keptPaths d := by
  simp [Document.paths, Document.paths?, Document.field?, members_prune, keptMembers,
    List.lookup_cons, Json.members?]

@[simp] theorem schemas_prune : (p.prune d).document.schemas = p.keptSchemas d := by
  simp [Document.schemas, Document.schemas?, Document.component?, field?_components, Json.get?,
    keptComponents, Json.members?]

theorem keys_members_subset : (p.prune d).document.members.map (·.1) ⊆
    ["components", "info", "openapi", "paths", "security", "servers"] := by
  rw [members_prune, keptMembers]
  cases d.keptSecurity p.extraSchemes with
  | none =>
    have hkeys : ["components", "info", "openapi", "paths", "servers"] ⊆
        ["components", "info", "openapi", "paths", "security", "servers"] := by decide
    exact hkeys
  | some requirements =>
    have hkeys : ["components", "info", "openapi", "paths", "security", "servers"] ⊆
        ["components", "info", "openapi", "paths", "security", "servers"] := List.Subset.refl _
    exact hkeys

theorem keys_keptComponents_subset :
    (p.keptComponents d).map (·.1) ⊆ ["schemas", "securitySchemes"] := by
  unfold keptComponents
  dsimp only
  split
  · exact List.cons_subset_cons _ (List.nil_subset _)
  · exact List.Subset.refl _

end Pruner

end ApiModels
