import ApiModels.Reference.Basic

/-!
# Schemas that a value mentions

A value mentions a schema if a reference to the schema stands somewhere in it and not beside another
reference: `Json.Mentions` follows the members and items of a value and stops at a reference. The
walk over a value collects exactly the schemas that it mentions (`mem_referenceNames`).
-/

namespace ApiModels

namespace Json

/-- A reference to a schema stands in the value. -/
inductive Mentions (name : String) : Json → Prop
  /-- The value is the reference; its other members do not count. -/
  | reference {members : List (String × Json)} {reference : String} :
    Reference.of? members = some reference → Reference.schemaName? reference = some name →
    Mentions name (.object members)
  /-- The reference stands in a member of the value. -/
  | member {members : List (String × Json)} {key : String} {value : Json} :
    Reference.of? members = none → (key, value) ∈ members → Mentions name value →
    Mentions name (.object members)
  /-- The reference stands in an item of the value. -/
  | item {items : List Json} {value : Json} :
    value ∈ items → Mentions name value → Mentions name (.list items)

variable {name : String}

mutual

theorem mentions_of_mem_referencesAt (site : ReferenceSite) :
    (value : Json) → name ∈ (value.referencesAt site).map (·.1) → value.Mentions name
  | .object members, h => by
    rw [referencesAt] at h
    cases href : Reference.of? members with
    | some reference =>
      simp only [href, List.map_map, List.mem_map, Option.mem_toList] at h
      obtain ⟨other, hother, rfl⟩ := h
      exact .reference href hother
    | none =>
      simp only [href] at h
      obtain ⟨key, value, hmem, hvalue⟩ := mentions_of_mem_memberReferences site members h
      exact .member href hmem hvalue
  | .list items, h => by
    rw [referencesAt] at h
    obtain ⟨value, hmem, hvalue⟩ := mentions_of_mem_itemReferences site items h
    exact .item hmem hvalue

theorem mentions_of_mem_itemReferences (site : ReferenceSite) :
    (items : List Json) → name ∈ (itemReferences site items).map (·.1) →
      ∃ value ∈ items, value.Mentions name
  | value :: items, h => by
    rw [itemReferences, List.map_append, List.mem_append] at h
    rcases h with h | h
    · exact ⟨value, List.mem_cons_self, mentions_of_mem_referencesAt site value h⟩
    · obtain ⟨other, hmem, hother⟩ := mentions_of_mem_itemReferences site items h
      exact ⟨other, List.mem_cons_of_mem value hmem, hother⟩

theorem mentions_of_mem_memberReferences (site : ReferenceSite) :
    (members : List (String × Json)) → name ∈ (memberReferences site members).map (·.1) →
      ∃ key value, (key, value) ∈ members ∧ value.Mentions name
  | (key, value) :: members, h => by
    rw [memberReferences, List.map_append, List.mem_append] at h
    rcases h with h | h
    · exact ⟨key, value, List.mem_cons_self, mentions_of_mem_referencesAt _ value h⟩
    · obtain ⟨key', other, hmem, hother⟩ := mentions_of_mem_memberReferences site members h
      exact ⟨key', other, List.mem_cons_of_mem _ hmem, hother⟩

end

theorem mem_itemReferences {site : ReferenceSite} {items : List Json} {value : Json}
    (hmem : value ∈ items) (h : name ∈ (value.referencesAt site).map (·.1)) :
    name ∈ (itemReferences site items).map (·.1) := by
  induction items with
  | nil => cases hmem
  | cons first items ih =>
    rw [itemReferences, List.map_append, List.mem_append]
    rcases List.mem_cons.1 hmem with rfl | hmem
    · exact .inl h
    · exact .inr (ih hmem)

theorem mem_memberReferences {site : ReferenceSite} {members : List (String × Json)} {key : String}
    {value : Json} (hmem : (key, value) ∈ members)
    (h : ∀ site, name ∈ (value.referencesAt site).map (·.1)) :
    name ∈ (memberReferences site members).map (·.1) := by
  induction members with
  | nil => cases hmem
  | cons first members ih =>
    obtain ⟨key', value'⟩ := first
    rw [memberReferences, List.map_append, List.mem_append]
    rcases List.mem_cons.1 hmem with heq | hmem
    · cases heq
      exact .inl (h _)
    · exact .inr (ih hmem)

theorem Mentions.mem_referencesAt {value : Json} (h : value.Mentions name) (site : ReferenceSite) :
    name ∈ (value.referencesAt site).map (·.1) := by
  induction h generalizing site with
  | reference href hname => simp [referencesAt, href, hname]
  | member href hmem _ ih =>
    simp only [referencesAt, href]
    exact mem_memberReferences hmem ih
  | item hmem _ ih =>
    rw [referencesAt]
    exact mem_itemReferences hmem (ih site)

/-- **The walk collects the schemas that are mentioned.** -/
theorem mem_referenceNames {value : Json} : name ∈ value.referenceNames ↔ value.Mentions name :=
  ⟨mentions_of_mem_referencesAt .schema value, fun h => h.mem_referencesAt .schema⟩

end Json

end ApiModels
