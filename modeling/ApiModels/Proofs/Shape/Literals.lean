import ApiModels.Proofs.Shape.Targets

/-!
# Literals in the shape of a schema

Every enumeration that stands in the shape of a schema has the literals of an object that stands in
the schema (`exists_literals_of_holds_detect`). Literals become texts, and `null` is left out, so
the texts repeat exactly where two literals have the same one (`nodup_literals_iff`).
-/

namespace ApiModels

/-- The text of a literal: what a string says, and the JSON text of anything else but `null`. -/
def Json.literal? : Json → Option String
  | .null => none
  | .text s => some s
  | value => some value.compact

/-- Somewhere in the schema there is an object with these literals. -/
def Json.ListsLiterals (schema : Json) (items : List Json) : Prop :=
  ∃ members, (Json.object members).Within schema ∧ members.lookup "enum" = some (.list items)

/-- An enumeration with the values stands somewhere in the shape. -/
inductive Shape.Holds (values : List String) : Shape → Prop
  | enumeration : Holds values (.enumeration values)
  | array {items : Shape} : Holds values items → Holds values (.array items)
  | property {properties : List (PropertyShape Shape)} {property : PropertyShape Shape} :
    property ∈ properties → Holds values property.shape → Holds values (.object properties)
  | alternative {alternatives : List Shape} {shape : Shape} :
    shape ∈ alternatives → Holds values shape → Holds values (.union alternatives)

namespace Json.ListsLiterals

variable {items : List Json}

theorem member {members : List (String × Json)} {key : String} {value : Json}
    (hmem : (key, value) ∈ members) (h : value.ListsLiterals items) :
    (Json.object members).ListsLiterals items := by
  obtain ⟨inner, hwithin, hlookup⟩ := h
  exact ⟨inner, .member hmem hwithin, hlookup⟩

/-- What an item of a list in an object lists, the object does. -/
theorem listMember {members : List (String × Json)} {key : String} {list : List Json}
    {value : Json} (hlist : (key, Json.list list) ∈ members) (hmem : value ∈ list)
    (h : value.ListsLiterals items) : (Json.object members).ListsLiterals items := by
  obtain ⟨inner, hwithin, hlookup⟩ := h
  exact ⟨inner, .member hlist (.item hmem hwithin), hlookup⟩

end Json.ListsLiterals

namespace Shape

variable {values : List String}

theorem Holds.eq_of_enumeration {written : List String}
    (h : (Shape.enumeration written).Holds values) : values = written := by
  cases h
  rfl

theorem literals_eq_filterMap (items : List Json) :
    literals items = items.filterMap Json.literal? := rfl

/-- **The texts of literals are distinct if no two literals have the same text.** -/
theorem nodup_literals_iff {items : List Json} : (literals items).Nodup ↔
    items.Pairwise fun a b => ∀ text, a.literal? = some text → b.literal? ≠ some text := by
  rw [literals_eq_filterMap, List.Nodup, List.pairwise_filterMap]
  refine List.Pairwise.iff fun a b => ?_
  constructor
  · intro h text ha hb
    exact h text ha text hb rfl
  · rintro h text ha _ hb rfl
    exact h text ha hb

theorem not_holds_scalar (name : String) (format : Option String) :
    ¬ (scalar name format).Holds values := by
  unfold scalar
  split
  · rintro ⟨⟩
  · rintro ⟨⟩

theorem not_holds_bare (name : String) : ¬ (bare name).Holds values := by
  unfold bare
  split
  · rintro (_ | _ | ⟨hmem, -⟩ | _)
    cases hmem
  · split
    · rintro (_ | ⟨⟨⟩⟩)
    · exact not_holds_scalar name none

/-- **The enumerations in the shape of a schema have their literals from the schema.** -/
theorem exists_literals_of_holds_detect {schema : Json} (h : (detect schema).Holds values) :
    ∃ items, schema.ListsLiterals items ∧ values = literals items := by
  revert h
  fun_induction detect schema with
  | case1 members pointer href =>
    intro h
    unfold ofReference at h
    split at h
    · cases h
    · cases h
  | case2 members _ alternatives halternatives ih =>
    rintro (_ | _ | _ | ⟨hshape, h⟩)
    obtain ⟨⟨schema, hschema⟩, -, rfl⟩ := List.mem_map.1 hshape
    obtain ⟨name, hlist⟩ := exists_mem_of_alternatives? halternatives
    obtain ⟨items, hlists, rfl⟩ := ih schema hschema h
    exact ⟨items, hlists.listMember hlist hschema, rfl⟩
  | case3 members _ _ single hsingle ih =>
    intro h
    obtain ⟨items, hlists, rfl⟩ := ih h
    have hmem : single ∈ [single] := List.mem_singleton_self single
    exact ⟨items, hlists.listMember (mem_of_listMember? hsingle) hmem, rfl⟩
  | case4 members _ _ schemas _ hschemas ih =>
    rintro (_ | _ | _ | ⟨hshape, h⟩)
    obtain ⟨⟨schema, hschema⟩, -, rfl⟩ := List.mem_map.1 hshape
    obtain ⟨items, hlists, rfl⟩ := ih schema hschema h
    exact ⟨items, hlists.listMember (mem_of_listMember? hschemas) hschema, rfl⟩
  | case5 => rintro ⟨⟩
  | case6 members _ _ _ names =>
    rintro (_ | _ | _ | ⟨hshape, h⟩)
    obtain ⟨name, -, rfl⟩ := List.mem_map.1 hshape
    exact absurd h (not_holds_bare name)
  | case7 members _ _ _ _ _ written hwritten =>
    intro h
    have heq : written = literals ((listMember? members "enum").getD []) := rfl
    cases hitems : listMember? members "enum" with
    | none =>
      -- Without literals the schema would be a text.
      rw [hitems, Option.getD_none] at heq
      simp [heq, literals] at hwritten
    | some items =>
      rw [hitems, Option.getD_some] at heq
      refine ⟨items, ⟨members, .refl, lookup_of_listMember? hitems⟩, ?_⟩
      rw [h.eq_of_enumeration, heq]
  | case8 =>
    rintro (_ | _ | ⟨hmem, -⟩ | _)
    cases hmem
  | case9 members _ _ _ _ properties hproperties _ _ ih =>
    rintro (_ | _ | ⟨hproperty, h⟩ | _)
    obtain ⟨⟨⟨key, schema⟩, hschema⟩, -, rfl⟩ := List.mem_map.1 hproperty
    have hobject := Json.mem_of_lookup (lookup_of_objectMember? hproperties)
    obtain ⟨items, hlists, rfl⟩ := ih key schema hschema h
    exact ⟨items, (hlists.member hschema).member hobject, rfl⟩
  | case10 => rintro (_ | ⟨⟨⟩⟩)
  | case11 members _ _ _ _ items hitems _ _ _ ih =>
    rintro (_ | h)
    obtain ⟨literals, hlists, rfl⟩ := ih h
    exact ⟨literals, hlists.member (Json.mem_of_lookup hitems), rfl⟩
  | case12 members _ _ _ name =>
    intro h
    exact absurd h (not_holds_scalar name _)
  | case13 => rintro ⟨⟩

end Shape

end ApiModels
