import ApiModels.Proofs.Keyed.Lookup
import ApiModels.Proofs.Shape.Properties

/-!
# Adding a property to a schema

An object that is neither a reference nor combined of alternatives has the shape of its properties
(`detect_of_properties`). So one more property in the schema is one more property in the shape, put
in between the others, which stay as they are (`exists_detect_withProperty`).
-/

namespace ApiModels

namespace Json

/-- None of the members is there that say what a schema is before its type does. -/
def HasNoKeyword (members : List (String × Json)) : Prop :=
  ∀ keyword ∈ ["$ref", "anyOf", "oneOf", "allOf"], members.lookup keyword = none

/-- A schema with one more property. -/
def withProperty (schema : Json) (key : String) (property : Json) : Json :=
  match schema with
  | .object members =>
    .object (putEntry "properties" (.object (putEntry key property
      ((Shape.objectMember? members "properties").getD []))) members)
  | schema => schema

theorem get?_withProperty {name : String} (hname : name ≠ "properties") (schema : Json)
    (key : String) (property : Json) :
    (schema.withProperty key property).get? name = schema.get? name := by
  cases schema with
  | object members =>
    show (putEntry "properties" _ members).lookup name = members.lookup name
    rw [lookup_putEntry, if_neg hname]
  | _ => rfl

end Json

namespace Shape

/-- The properties of an object. -/
def propertiesOf (members properties : List (String × Json)) : List (PropertyShape Shape) :=
  properties.map fun entry => property (requiredNames members) entry.1 entry.2 (detect entry.2)

theorem map_attach_eq_propertiesOf (members properties : List (String × Json)) :
    (properties.attach.map fun ⟨(key, schema), _⟩ =>
      property (requiredNames members) key schema (detect schema)) =
      propertiesOf members properties := by
  have hval : properties.attach.map Subtype.val = properties := List.attach_map_subtype_val _
  unfold propertiesOf
  conv =>
    rhs
    rw [← hval, List.map_map]
  rfl

section Plain

variable {members properties : List (String × Json)} (h : Json.HasNoKeyword members)

include h

theorem detect_of_properties (htype : declaredType members = .one "object")
    (hproperties : objectMember? members "properties" = some properties) :
    detect (.object members) = .object (propertiesOf members properties) := by
  have href := h "$ref" (by simp)
  have halternatives : alternatives? members = none := by
    rw [alternatives?, listMember?, listMember?, h "anyOf" (by simp), h "oneOf" (by simp)]
    rfl
  have hall : listMember? members "allOf" = none := by
    rw [listMember?, h "allOf" (by simp)]
    rfl
  rw [detect]
  simp only [href, htype]
  split
  · next hsome => cases halternatives.symm.trans hsome
  · split
    · next hsome => cases hall.symm.trans hsome
    · next hsome => cases hall.symm.trans hsome
    · rw [if_neg (by simp), if_pos trivial]
      split
      · next hnone => cases hnone.symm.trans hproperties
      · next other hother =>
        cases hproperties.symm.trans hother
        exact congrArg Shape.object (map_attach_eq_propertiesOf members properties)

theorem exists_properties_of_detect {sources : List (PropertyShape Shape)} (hne : sources ≠ [])
    (hdetect : detect (.object members) = .object sources) :
    declaredType members = .one "object" ∧ ∃ properties,
      objectMember? members "properties" = some properties ∧
        sources = propertiesOf members properties := by
  revert hdetect
  generalize hschema : Json.object members = schema
  fun_cases detect schema with
  | case1 _ pointer =>
    intro hdetect
    exact absurd hdetect (ofReference_ne_object pointer sources)
  | case3 _ _ _ single hsingle =>
    cases hschema
    rw [listMember?, h "allOf" (by simp)] at hsingle
    cases hsingle
  | case8 =>
    rintro ⟨⟩
    exact absurd rfl hne
  | case9 _ _ _ _ _ properties hproperties htype =>
    cases hschema
    rintro ⟨⟩
    exact ⟨htype, properties, hproperties, map_attach_eq_propertiesOf members properties⟩
  | case12 _ _ _ _ name =>
    intro hdetect
    exact absurd hdetect (scalar_ne_object name _ sources)
  | _ => rintro ⟨⟩

/-- **One more property in a schema is one more property in its shape**, and the others stay as
they are. -/
theorem exists_detect_withProperty {sources : List (PropertyShape Shape)} (hne : sources ≠ [])
    (hdetect : detect (.object members) = .object sources) {key : String}
    (hkey : key ∉ sources.map (·.name)) (schema : Json) :
    ∃ before added after, sources = before ++ after ∧ added.name = key ∧
      detect ((Json.object members).withProperty key schema) =
        .object (before ++ added :: after) := by
  obtain ⟨htype, properties, hproperties, rfl⟩ := exists_properties_of_detect h hne hdetect
  let members' := putEntry "properties" (.object (putEntry key schema properties)) members
  have hschema : (Json.object members).withProperty key schema = .object members' := by
    rw [Json.withProperty, hproperties]
    rfl
  have hsame : ∀ name, name ≠ "properties" → members'.lookup name = members.lookup name := by
    intro name hname
    rw [lookup_putEntry, if_neg hname]
  have hput : members'.lookup "properties" = some (.object (putEntry key schema properties)) := by
    rw [lookup_putEntry, if_pos rfl]
  have hkeyword : Json.HasNoKeyword members' := by
    intro keyword hmem
    have hname : keyword ≠ "properties" := by
      rintro rfl
      simp at hmem
    rw [hsame keyword hname]
    exact h keyword hmem
  have htype' : declaredType members' = .one "object" := by
    rw [← htype, declaredType, declaredType, hsame "type" (by simp), hput,
      lookup_of_objectMember? hproperties]
    rfl
  have hrequired : requiredNames members' = requiredNames members := by
    rw [requiredNames, requiredNames, listMember?, listMember?, hsame "required" (by simp)]
  have hproperties' : objectMember? members' "properties" =
      some (putEntry key schema properties) := by
    rw [objectMember?, hput]
    rfl
  have hnames : (propertiesOf members properties).map (·.name) = properties.map (·.1) := by
    rw [propertiesOf, List.map_map]
    rfl
  rw [hnames] at hkey
  obtain ⟨before, after, rfl, hentries⟩ := exists_putEntry_eq_append hkey schema
  refine ⟨propertiesOf members before, property (requiredNames members) key schema (detect schema),
    propertiesOf members after, List.map_append, rfl, ?_⟩
  rw [hschema, detect_of_properties hkeyword htype' hproperties', hentries, propertiesOf, hrequired,
    List.map_append]
  rfl

end Plain

end Shape

end ApiModels
