import ApiModels.Pruning.OperationSet
import ApiModels.Pruning.Security
import ApiModels.Pruning.Summary
import ApiModels.Reference.Graph

/-!
# Pruning

A pruner reduces a document to the operation paths of a set and to the schemas that can be reached
from them: those that a kept path refers to, and with every kept schema those that it refers to.
`Pruner.prune` gives the reduced document together with what was kept, removed and skipped.
-/

namespace ApiModels

/-- What a pruning is to keep. -/
structure Pruner where
  /-- The paths to keep. -/
  keep : OperationSet
  /-- Security schemes that are kept and required where the document defines them. -/
  extraSchemes : List String

/-- The result of a pruning. -/
structure PruneOutcome where
  document : Document
  keptPaths : List String
  removedPaths : List String
  keptSchemas : List String
  removedSchemas : List String
  /-- The paths to keep that the document does not have. -/
  skippedPaths : List String
  summary : PruneSummary

namespace Pruner

variable (p : Pruner) (d : Document)

/-- The paths that are kept, with what they offer. -/
def keptPaths : List (String × Json) := d.paths.filter fun (path, _) => p.keep.contains path

/-- The schemas to which the kept paths refer. -/
def seeds : List String := nameSet ((p.keptPaths d).flatMap fun (_, item) => item.referenceNames)

/-- The schemas that can be reached from the kept paths. -/
def reachable : List String := (ReferenceGraph.ofDocument d).closure (p.seeds d)

/-- The schemas that are kept, with their definitions. -/
def keptSchemas : List (String × Json) :=
  let reachable := p.reachable d
  d.schemas.filter fun (name, _) => reachable.contains name

/-- The components of the pruned document. -/
def keptComponents : List (String × Json) :=
  let schemes := d.keptSchemes p.extraSchemes
  ("schemas", .object (p.keptSchemas d)) ::
    if schemes.isEmpty then [] else [("securitySchemes", .object schemes)]

/-- The members of the pruned document. The version, the information and the servers of the document
are kept, or take their defaults. -/
def keptMembers : List (String × Json) :=
  [("components", .object (p.keptComponents d)),
    ("info", (d.field? "info").getD (.object [])),
    ("openapi", (d.field? "openapi").getD (.text "3.0.1")),
    ("paths", .object (p.keptPaths d))] ++
  (match d.keptSecurity p.extraSchemes with
    | none => []
    | some requirements => [("security", .list requirements)]) ++
  [("servers", (d.field? "servers").getD (.list []))]

theorem sorted_keptComponents : Json.Sorted (.object (p.keptComponents d)) := by
  have hschemas : Json.Sorted (.object (p.keptSchemas d)) := d.sorted_schemas.filter _
  have hschemes := d.sorted_keptSchemes p.extraSchemes
  rw [keptComponents, Json.sorted_object_iff]
  split
  · exact ⟨ascending_iff_keys.2 (by decide +kernel : ["schemas"].Pairwise (· < ·)),
      by simp [hschemas]⟩
  · exact ⟨ascending_iff_keys.2
      (by decide +kernel : ["schemas", "securitySchemes"].Pairwise (· < ·)),
      by simp [hschemas, hschemes]⟩

theorem sorted_getD_field (name : String) {value : Json} (h : value.Sorted) :
    ((d.field? name).getD value).Sorted := by
  cases hf : d.field? name with
  | none => exact h
  | some field => exact Document.sorted_field hf

theorem sorted_keptMembers : Json.Sorted (.object (p.keptMembers d)) := by
  have hcomponents := p.sorted_keptComponents d
  have hpaths : Json.Sorted (.object (p.keptPaths d)) := d.sorted_paths.filter _
  have hinfo : Json.Sorted ((d.field? "info").getD (.object [])) :=
    sorted_getD_field d "info" ⟨List.Pairwise.nil, trivial⟩
  have hversion : Json.Sorted ((d.field? "openapi").getD (.text "3.0.1")) :=
    sorted_getD_field d "openapi" trivial
  have hservers : Json.Sorted ((d.field? "servers").getD (.list [])) :=
    sorted_getD_field d "servers" trivial
  rw [keptMembers, Json.sorted_object_iff]
  cases hs : d.keptSecurity p.extraSchemes with
  | none =>
    exact ⟨ascending_iff_keys.2 (by decide +kernel :
      ["components", "info", "openapi", "paths", "servers"].Pairwise (· < ·)), by simp [*]⟩
  | some requirements =>
    have hsecurity := d.sorted_keptSecurity hs
    exact ⟨ascending_iff_keys.2 (by decide +kernel :
      ["components", "info", "openapi", "paths", "security", "servers"].Pairwise (· < ·)),
      by simp [*]⟩

theorem sectionFault_keptMembers : sectionFault (p.keptMembers d) = none := by
  simp [keptMembers, keptComponents, sectionFault, sectionFault.componentsFault, Json.isObject,
    Json.members?, Json.get?, List.lookup_cons]

/-- The pruned document and what was kept of the document. -/
def prune : PruneOutcome where
  document := ⟨p.keptMembers d, p.sorted_keptMembers d, p.sectionFault_keptMembers d⟩
  keptPaths := (p.keptPaths d).map (·.1)
  removedPaths := (d.paths.map (·.1)).filter fun path => !p.keep.contains path
  keptSchemas := (p.keptSchemas d).map (·.1)
  removedSchemas :=
    let reachable := p.reachable d
    (d.schemas.map (·.1)).filter fun name => !reachable.contains name
  skippedPaths := p.keep.paths.filter fun path => (d.paths.lookup path).isNone
  summary :=
    { allPaths := d.paths.length
      keptPaths := (p.keptPaths d).length
      allSchemas := d.schemas.length
      keptSchemas := (p.keptSchemas d).length }

end Pruner

end ApiModels
