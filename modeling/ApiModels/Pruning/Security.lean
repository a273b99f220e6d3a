import ApiModels.Document

/-!
# Security of a pruned document

A security scheme is kept if a requirement names it or if it is one of the extra schemes. An extra
scheme that the document defines, but does not require, is required by an entry of its own at the
end of the list. A document without schemes keeps its requirements as they are.
-/

namespace ApiModels

/-- The schemes that a requirement names. -/
def requiredSchemes (requirement : Json) : List String :=
  (requirement.members?.getD []).map (·.1)

/-- The schemes that a list of requirements names. -/
def mentionedSchemes (requirements : List Json) : List String :=
  requirements.flatMap requiredSchemes

/-- The requirement of a scheme without scopes. -/
def schemeRequirement (scheme : String) : Json := .object [(scheme, .list [])]

/-- The defined schemes of a list that are not listed, each at its first place. -/
def unlistedSchemes (defined : List String) (listed : List String) : List String → List String
  | [] => []
  | scheme :: schemes =>
    if defined.contains scheme && !listed.contains scheme then
      scheme :: unlistedSchemes defined (scheme :: listed) schemes
    else unlistedSchemes defined listed schemes

namespace Document

variable (d : Document)

/-- The security schemes that are kept. -/
def keptSchemes (extra : List String) : List (String × Json) :=
  (d.securitySchemes?.getD []).filter fun (scheme, _) =>
    (mentionedSchemes (d.security?.getD [])).contains scheme || extra.contains scheme

/-- The requirements of the extra schemes that the document defines and does not require. -/
def addedRequirements (extra : List String) : List Json :=
  (unlistedSchemes ((d.securitySchemes?.getD []).map (·.1))
    (mentionedSchemes (d.security?.getD [])) extra).map schemeRequirement

/-- The list of requirements of the pruned document. -/
def keptSecurity (extra : List String) : Option (List Json) :=
  match d.security?, d.addedRequirements extra with
  | none, [] => none
  | requirements, added => some (requirements.getD [] ++ added)

theorem sorted_keptSchemes (extra : List String) : Json.Sorted (.object (d.keptSchemes extra)) := by
  rw [keptSchemes]
  cases h : d.securitySchemes? with
  | none => exact ⟨List.Pairwise.nil, trivial⟩
  | some schemes => exact (sorted_securitySchemes h).filter _

theorem sorted_keptSecurity {extra : List String} {requirements : List Json}
    (h : d.keptSecurity extra = some requirements) : Json.Sorted (.list requirements) := by
  have hall : requirements = d.security?.getD [] ++ d.addedRequirements extra := by
    revert h
    rw [keptSecurity]
    split <;> simp [eq_comm]
  rw [hall, Json.sorted_list_iff]
  intro item hitem
  rcases List.mem_append.1 hitem with hitem | hitem
  · cases hs : d.security? with
    | none => simp [hs] at hitem
    | some source =>
      exact Json.sorted_list_iff.1 (sorted_security hs) item (by simpa [hs] using hitem)
  · obtain ⟨scheme, _, rfl⟩ := List.mem_map.1 hitem
    simp [schemeRequirement, Json.sorted_object_iff, Ascending, Json.sorted_list_iff]

end Document

end ApiModels
