import ApiModels.Proofs.Compilation.Leading
import ApiModels.Proofs.Shape.Addition
import ApiModels.Proofs.Shape.Literals

/-!
# What a schema denotes

A schema that is combined of a single one stands for that one (`Json.denoted`). The shape of an
object has one property for each key of the object that its schema denotes, with what the object
says of the key (`exists_entries_of_detect`), and the values of an enumeration are the literals that
its schema lists (`exists_holdsEnumeration_of_detect`), of which `null` is none
(`forall₂_literals`).
-/

namespace ApiModels

namespace Json

/-- What a schema stands for: one that is combined of a single schema stands for that. -/
def denoted : Json → Json
  | .object members =>
    match _ : members.lookup "allOf" with
    | some (.list [single]) => single.denoted
    | _ => .object members
  | schema => schema
termination_by schema => sizeOf schema
decreasing_by
  have hlt := Shape.sizeOf_lookup_lt ‹members.lookup "allOf" = some (.list [single])›
  simp only [Json.object.sizeOf_spec, Json.list.sizeOf_spec, List.cons.sizeOf_spec] at hlt ⊢
  omega

/-- The key is listed as required. -/
def Requires (members : List (String × Json)) (key : String) : Prop :=
  ∃ items, members.lookup "required" = some (.list items) ∧ .text key ∈ items

/-- The schema denotes an enumeration of texts with the items. -/
def Enumerates (schema : Json) (items : List Json) : Prop :=
  ∃ members, schema.denoted = .object members ∧ Shape.declaredType members = .one "string" ∧
    members.lookup "enum" = some (.list items)

/-- The schema denotes an enumeration with the items, or an array of one. -/
inductive HoldsEnumeration (items : List Json) : Json → Prop
  | enumeration {schema : Json} (h : schema.Enumerates items) : HoldsEnumeration items schema
  | array {schema inner : Json} {members : List (String × Json)}
      (hdenoted : schema.denoted = .object members)
      (htype : Shape.declaredType members = .one "array")
      (hitems : members.lookup "items" = some inner) (h : HoldsEnumeration items inner) :
    HoldsEnumeration items schema

variable {members : List (String × Json)}

theorem denoted_of_single {single : Json}
    (h : Shape.listMember? members "allOf" = some [single]) :
    (Json.object members).denoted = single.denoted := by
  have hlookup := Shape.lookup_of_listMember? h
  rw [denoted]
  split
  · next other hother =>
    cases hlookup.symm.trans hother
    rfl
  · next hother => exact absurd hlookup (hother single)

theorem denoted_of_none (h : Shape.listMember? members "allOf" = none) :
    (Json.object members).denoted = .object members := by
  rw [denoted]
  split
  · next hlookup =>
    rw [Shape.listMember?, hlookup] at h
    cases h
  · rfl

theorem requires_iff {key : String} : Requires members key ↔
    (Shape.requiredNames members).contains key = true := by
  rw [List.contains_iff_mem, Shape.requiredNames, List.mem_filterMap]
  constructor
  · rintro ⟨items, hlookup, hmem⟩
    refine ⟨.text key, ?_, rfl⟩
    rw [Shape.listMember?, hlookup]
    exact hmem
  · rintro ⟨item, hmem, hitem⟩
    cases hitems : Shape.listMember? members "required" with
    | none =>
      rw [hitems] at hmem
      cases hmem
    | some items =>
      rw [hitems] at hmem
      cases item <;> cases hitem
      exact ⟨items, Shape.lookup_of_listMember? hitems, hmem⟩

theorem literal?_eq_none_iff {item : Json} : item.literal? = none ↔ item = .null := by
  cases item <;> simp [literal?]

end Json

namespace Shape

theorem ofReference_eq (pointer : Json) :
    (∃ target, ofReference pointer = .reference target) ∨
      ∃ description, ofReference pointer = .unknown description := by
  unfold ofReference
  split
  · exact .inl ⟨_, rfl⟩
  · exact .inr ⟨_, rfl⟩

theorem scalar_eq (name : String) (format : Option String) :
    (∃ type, scalar name format = .primitive type format) ∨
      ∃ description, scalar name format = .unknown description := by
  unfold scalar
  split
  · exact .inl ⟨_, rfl⟩
  · exact .inr ⟨_, rfl⟩

/-- **The properties of an object are those of the object that its schema denotes.** -/
theorem exists_entries_of_detect {schema : Json} {sources : List (PropertyShape Shape)}
    (hne : sources ≠ []) (hdetect : detect schema = .object sources) :
    ∃ members entries, schema.denoted = .object members ∧
      members.lookup "properties" = some (.object entries) ∧
      sources = propertiesOf members entries := by
  revert hdetect
  fun_induction detect schema with
  | case1 members pointer =>
    intro hdetect
    exact absurd hdetect (ofReference_ne_object pointer sources)
  | case3 members _ _ single hsingle ih =>
    intro hdetect
    rw [Json.denoted_of_single hsingle]
    exact ih hdetect
  | case8 =>
    rintro ⟨⟩
    exact absurd rfl hne
  | case9 members _ _ hall _ entries hentries =>
    rintro ⟨⟩
    exact ⟨members, entries, Json.denoted_of_none hall, lookup_of_objectMember? hentries,
      map_attach_eq_propertiesOf members entries⟩
  | case12 members _ _ _ name =>
    intro hdetect
    exact absurd hdetect (scalar_ne_object name _ sources)
  | _ => rintro ⟨⟩

theorem exists_enumerates_of_detect {schema : Json} {values : List String}
    (hdetect : detect schema = .enumeration values) :
    ∃ items, schema.Enumerates items ∧ values = literals items := by
  revert hdetect
  fun_induction detect schema with
  | case1 members pointer =>
    intro hdetect
    rcases ofReference_eq pointer with ⟨_, heq⟩ | ⟨_, heq⟩ <;> cases heq.symm.trans hdetect
  | case3 members _ _ single hsingle ih =>
    intro hdetect
    obtain ⟨items, ⟨inner, hdenoted, hlisted⟩, hvalues⟩ := ih hdetect
    exact ⟨items, ⟨inner, (Json.denoted_of_single hsingle).trans hdenoted, hlisted⟩, hvalues⟩
  | case7 members _ _ hall name htype written hwritten =>
    intro hdetect
    obtain ⟨rfl, hsome⟩ := hwritten
    have heq : values = literals ((listMember? members "enum").getD []) :=
      (Shape.enumeration.inj hdetect).symm
    cases hitems : listMember? members "enum" with
    | none =>
      -- Without literals the schema would be a text.
      simp [written, hitems, literals] at hsome
    | some items =>
      rw [hitems, Option.getD_some] at heq
      exact ⟨items, ⟨members, Json.denoted_of_none hall, htype, lookup_of_listMember? hitems⟩, heq⟩
  | case12 members _ _ _ name =>
    intro hdetect
    rcases scalar_eq name _ with ⟨_, heq⟩ | ⟨_, heq⟩ <;> cases heq.symm.trans hdetect
  | _ => rintro ⟨⟩

theorem exists_items_of_detect {schema : Json} {shape : Shape}
    (hdetect : detect schema = .array shape) (hitems : shape ≠ noItems) :
    ∃ members inner, schema.denoted = .object members ∧ declaredType members = .one "array" ∧
      members.lookup "items" = some inner ∧ shape = detect inner := by
  revert hdetect
  fun_induction detect schema with
  | case1 members pointer =>
    intro hdetect
    rcases ofReference_eq pointer with ⟨_, heq⟩ | ⟨_, heq⟩ <;> cases heq.symm.trans hdetect
  | case3 members _ _ single hsingle ih =>
    intro hdetect
    rw [Json.denoted_of_single hsingle]
    exact ih hdetect
  | case10 =>
    rintro ⟨⟩
    exact absurd rfl hitems
  | case11 members _ _ hall _ inner hinner htype =>
    rintro ⟨⟩
    exact ⟨members, inner, Json.denoted_of_none hall, htype, hinner, rfl⟩
  | case12 members _ _ _ name =>
    intro hdetect
    rcases scalar_eq name _ with ⟨_, heq⟩ | ⟨_, heq⟩ <;> cases heq.symm.trans hdetect
  | _ => rintro ⟨⟩

/-- **What a shape holds in line are the literals that its schema holds.** -/
theorem exists_holdsEnumeration_of_detect {schema : Json} {values : List String}
    (h : (detect schema).HoldsInline values) :
    ∃ items, schema.HoldsEnumeration items ∧ values = literals items := by
  generalize hshape : detect schema = shape at h
  induction h generalizing schema with
  | enumeration =>
    obtain ⟨items, henumerates, hvalues⟩ := exists_enumerates_of_detect hshape
    exact ⟨items, .enumeration henumerates, hvalues⟩
  | @array inner values h ih =>
    have hinner : inner ≠ noItems := by
      rintro rfl
      cases h
    obtain ⟨members, schema, hdenoted, htype, hitems, rfl⟩ := exists_items_of_detect hshape hinner
    obtain ⟨items, hholds, hvalues⟩ := ih rfl
    exact ⟨items, .array hdenoted htype hitems hholds, hvalues⟩

theorem forall₂_literals (items : List Json) :
    List.Forall₂ (fun item value => item.literal? = some value) (items.filter (· ≠ .null))
      (literals items) := by
  induction items with
  | nil => exact .nil
  | cons item items ih =>
    rw [literals_eq_filterMap] at ih ⊢
    by_cases hnull : item = .null
    · have hnone : item.literal? = none := Json.literal?_eq_none_iff.2 hnull
      rw [List.filter_cons_of_neg (by simpa using hnull), List.filterMap_cons_none hnone]
      exact ih
    · obtain ⟨value, hvalue⟩ := Option.ne_none_iff_exists'.1 (mt Json.literal?_eq_none_iff.1 hnull)
      rw [List.filter_cons_of_pos (by simpa using hnull), List.filterMap_cons_some hvalue]
      exact .cons hvalue ih

end Shape

end ApiModels
