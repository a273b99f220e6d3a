import ApiModels.Json.Sorted
import ApiModels.Proofs.Reference.Mention
import ApiModels.Shape.Basic

/-!
# References in the shape of a schema

Every reference that stands in the shape of a schema stands in the schema too, so the walk over the
schema collects it, with one exception (`mentions_or_hides_of_refersTo_detect`). The walk does not
look into an object of properties that has a string `$ref` among its names; such an object hides the
references in its properties (`Json.Hides`). `Json.HasPlainProperties` says that there is none.
-/

namespace ApiModels

/-- A reference to the schema stands somewhere in the shape. -/
inductive Shape.RefersTo (target : String) : Shape → Prop
  | reference : RefersTo target (.reference target)
  | array {items : Shape} : RefersTo target items → RefersTo target (.array items)
  | property {properties : List (PropertyShape Shape)} {property : PropertyShape Shape} :
    property ∈ properties → RefersTo target property.shape → RefersTo target (.object properties)
  | alternative {alternatives : List Shape} {shape : Shape} :
    shape ∈ alternatives → RefersTo target shape → RefersTo target (.union alternatives)

namespace Json

/-- A part of a value is the value itself or stands somewhere in it. -/
inductive Within (part : Json) : Json → Prop
  | refl : Within part part
  | member {members : List (String × Json)} {key : String} {value : Json} :
    (key, value) ∈ members → Within part value → Within part (.object members)
  | item {items : List Json} {value : Json} :
    value ∈ items → Within part value → Within part (.list items)

/-- No object of properties in the value has a string `$ref`. -/
def HasPlainProperties (value : Json) : Prop :=
  ∀ members properties, (Json.object members).Within value →
    members.lookup "properties" = some (.object properties) → Reference.of? properties = none

theorem hasPlainProperties_object_iff {members : List (String × Json)} :
    (Json.object members).HasPlainProperties ↔
      (∀ properties, members.lookup "properties" = some (.object properties) →
        Reference.of? properties = none) ∧ ∀ entry ∈ members, entry.2.HasPlainProperties := by
  constructor
  · intro h
    exact ⟨fun properties => h members properties .refl,
      fun _ hmem inner properties hwithin => h inner properties (.member hmem hwithin)⟩
  · rintro ⟨hself, hmembers⟩ inner properties (_ | ⟨hmem, hwithin⟩)
    · exact hself properties
    · exact hmembers _ hmem inner properties hwithin

theorem hasPlainProperties_list_iff {items : List Json} :
    (Json.list items).HasPlainProperties ↔ ∀ item ∈ items, item.HasPlainProperties := by
  constructor
  · exact fun h _ hmem inner properties hwithin => h inner properties (.item hmem hwithin)
  · rintro h inner properties (_ | _ | ⟨hmem, hwithin⟩)
    exact h _ hmem inner properties hwithin

theorem hasPlainProperties_text (value : String) : (Json.text value).HasPlainProperties := by
  rintro inner properties ⟨⟩

/-- A reference to the schema stands in the shape of a property, but beside that property there is a
string `$ref`. -/
def Hides (value : Json) (target : String) : Prop :=
  ∃ members properties reference, (Json.object members).Within value ∧
    members.lookup "properties" = some (.object properties) ∧
    Reference.of? properties = some reference ∧
    ∃ entry ∈ properties, (Shape.detect entry.2).RefersTo target

theorem HasPlainProperties.not_hides {value : Json} (h : value.HasPlainProperties)
    (target : String) : ¬ value.Hides target := by
  rintro ⟨members, properties, reference, hwithin, hlookup, href, -⟩
  rw [h members properties hwithin hlookup] at href
  cases href

theorem Hides.member {members : List (String × Json)} {key : String} {value : Json}
    {target : String} (hmem : (key, value) ∈ members) (h : value.Hides target) :
    (Json.object members).Hides target := by
  obtain ⟨inner, properties, reference, hwithin, hhidden⟩ := h
  exact ⟨inner, properties, reference, .member hmem hwithin, hhidden⟩

theorem Hides.item {items : List Json} {value : Json} {target : String} (hmem : value ∈ items)
    (h : value.Hides target) : (Json.list items).Hides target := by
  obtain ⟨inner, properties, reference, hwithin, hhidden⟩ := h
  exact ⟨inner, properties, reference, .item hmem hwithin, hhidden⟩

end Json

namespace Shape

variable {target : String}

/-! ### Shapes without references -/

theorem not_refersTo_scalar (name : String) (format : Option String) :
    ¬ (scalar name format).RefersTo target := by
  unfold scalar
  split
  · rintro ⟨⟩
  · rintro ⟨⟩

theorem not_refersTo_bare (name : String) : ¬ (bare name).RefersTo target := by
  unfold bare
  split
  · rintro (_ | _ | ⟨hmem, -⟩ | _)
    cases hmem
  · split
    · rintro (_ | ⟨⟨⟩⟩)
    · exact not_refersTo_scalar name none

/-! ### Members of a schema -/

theorem lookup_of_listMember? {members : List (String × Json)} {name : String} {items : List Json}
    (h : listMember? members name = some items) : members.lookup name = some (.list items) := by
  obtain ⟨value, hvalue, hitems⟩ := Option.bind_eq_some_iff.1 h
  cases value <;> simp [Json.items?] at hitems
  exact hitems ▸ hvalue

theorem mem_of_listMember? {members : List (String × Json)} {name : String} {items : List Json}
    (h : listMember? members name = some items) : (name, Json.list items) ∈ members :=
  Json.mem_of_lookup (lookup_of_listMember? h)

theorem lookup_of_objectMember? {members inner : List (String × Json)} {name : String}
    (h : objectMember? members name = some inner) : members.lookup name = some (.object inner) := by
  obtain ⟨value, hvalue, hinner⟩ := Option.bind_eq_some_iff.1 h
  cases value <;> simp [Json.members?] at hinner
  exact hinner ▸ hvalue

theorem exists_mem_of_alternatives? {members : List (String × Json)} {items : List Json}
    (h : alternatives? members = some items) : ∃ name, (name, Json.list items) ∈ members := by
  rcases Option.or_eq_some_iff.1 h with h | ⟨-, h⟩
  · exact ⟨_, mem_of_listMember? h⟩
  · exact ⟨_, mem_of_listMember? h⟩

theorem of?_eq_none_of_lookup {members : List (String × Json)}
    (href : members.lookup "$ref" = none) : Reference.of? members = none := by
  rw [Reference.of?, href]
  rfl

/-- What a list of a schema without `$ref` mentions or hides, the schema does. -/
theorem mentions_or_hides_of_mem_list {members : List (String × Json)} {name : String}
    {items : List Json} {schema : Json} (href : members.lookup "$ref" = none)
    (hlist : (name, Json.list items) ∈ members) (hmem : schema ∈ items)
    (h : schema.Mentions target ∨ schema.Hides target) :
    (Json.object members).Mentions target ∨ (Json.object members).Hides target := by
  rcases h with hmentions | hhides
  · exact .inl (.member (of?_eq_none_of_lookup href) hlist (.item hmem hmentions))
  · exact .inr (.member hlist (.item hmem hhides))

/-! ### Detection -/

/-- **The references in the shape of a schema are mentioned by the schema**, unless it hides
them. -/
theorem mentions_or_hides_of_refersTo_detect {schema : Json}
    (ht : (detect schema).RefersTo target) : schema.Mentions target ∨ schema.Hides target := by
  revert ht
  fun_induction detect schema with
  | case1 members pointer href =>
    intro ht
    unfold ofReference at ht
    split at ht
    · next name hname =>
      cases ht
      obtain ⟨reference, htext, hname⟩ := Option.bind_eq_some_iff.1 hname
      have hof : Reference.of? members = some reference := by
        rw [Reference.of?, href]
        exact htext
      exact .inl (.reference hof hname)
    · cases ht
  | case2 members href alternatives halternatives ih =>
    rintro (_ | _ | _ | ⟨hshape, ht⟩)
    obtain ⟨⟨schema, hschema⟩, -, rfl⟩ := List.mem_map.1 hshape
    obtain ⟨name, hlist⟩ := exists_mem_of_alternatives? halternatives
    exact mentions_or_hides_of_mem_list href hlist hschema (ih schema hschema ht)
  | case3 members href _ single hsingle ih =>
    intro ht
    have hlist := mem_of_listMember? hsingle
    have hmem : single ∈ [single] := List.mem_singleton_self single
    exact mentions_or_hides_of_mem_list href hlist hmem (ih ht)
  | case4 members href _ schemas _ hschemas ih =>
    rintro (_ | _ | _ | ⟨hshape, ht⟩)
    obtain ⟨⟨schema, hschema⟩, -, rfl⟩ := List.mem_map.1 hshape
    have hlist := mem_of_listMember? hschemas
    exact mentions_or_hides_of_mem_list href hlist hschema (ih schema hschema ht)
  | case5 => rintro ⟨⟩
  | case6 members _ _ _ names =>
    rintro (_ | _ | _ | ⟨hshape, ht⟩)
    obtain ⟨name, -, rfl⟩ := List.mem_map.1 hshape
    exact absurd ht (not_refersTo_bare name)
  | case7 => rintro ⟨⟩
  | case8 =>
    rintro (_ | _ | ⟨hmem, -⟩ | _)
    cases hmem
  | case9 members href _ _ _ properties hproperties _ _ ih =>
    rintro (_ | _ | ⟨hproperty, ht⟩ | _)
    obtain ⟨⟨⟨key, schema⟩, hschema⟩, -, rfl⟩ := List.mem_map.1 hproperty
    have hlookup := lookup_of_objectMember? hproperties
    have hobject := Json.mem_of_lookup hlookup
    cases hplain : Reference.of? properties with
    | some reference =>
      -- The walk takes the properties for a reference and does not go into them.
      exact .inr ⟨members, properties, reference, .refl, hlookup, hplain, _, hschema, ht⟩
    | none =>
      rcases ih key schema hschema ht with hmentions | hhides
      · have hinner : (Json.object properties).Mentions target := .member hplain hschema hmentions
        exact .inl (.member (of?_eq_none_of_lookup href) hobject hinner)
      · exact .inr (.member hobject (.member hschema hhides))
  | case10 => rintro (_ | ⟨⟨⟩⟩)
  | case11 members href _ _ _ items hitems _ _ _ ih =>
    rintro (_ | ht)
    have hmem := Json.mem_of_lookup hitems
    rcases ih ht with hmentions | hhides
    · exact .inl (.member (of?_eq_none_of_lookup href) hmem hmentions)
    · exact .inr (.member hmem hhides)
  | case12 members _ _ _ name =>
    intro ht
    exact absurd ht (not_refersTo_scalar name _)
  | case13 => rintro ⟨⟩

/-- Where no properties hide a reference, the schema mentions all that its shape refers to. -/
theorem mentions_of_refersTo_detect {schema : Json} (h : schema.HasPlainProperties)
    (ht : (detect schema).RefersTo target) : schema.Mentions target :=
  (mentions_or_hides_of_refersTo_detect ht).resolve_right (h.not_hides target)

end Shape

end ApiModels
