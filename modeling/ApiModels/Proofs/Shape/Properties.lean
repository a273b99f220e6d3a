import ApiModels.Proofs.Shape.Targets

/-!
# The properties of an object

The properties in the shape of a schema are in the order of the schema. In a document, whose objects
are sorted, this is the ascending order of their names (`pairwise_name_of_detect`).
-/

namespace ApiModels.Shape

theorem ofReference_ne_object (pointer : Json) (properties : List (PropertyShape Shape)) :
    ofReference pointer ≠ .object properties := by
  unfold ofReference
  split
  · rintro ⟨⟩
  · rintro ⟨⟩

theorem scalar_ne_object (name : String) (format : Option String)
    (properties : List (PropertyShape Shape)) : scalar name format ≠ .object properties := by
  unfold scalar
  split
  · rintro ⟨⟩
  · rintro ⟨⟩

/-- **The properties in the shape of a sorted schema ascend strictly by name.** -/
theorem pairwise_name_of_detect {schema : Json} (h : schema.Sorted)
    {properties : List (PropertyShape Shape)} (hobject : detect schema = .object properties) :
    (properties.map (·.name)).Pairwise (· < ·) := by
  revert h hobject
  fun_induction detect schema with
  | case1 members pointer =>
    intro _ hobject
    exact absurd hobject (ofReference_ne_object pointer properties)
  | case3 members _ _ single hsingle ih =>
    -- A schema that is combined of one stands for it.
    intro h
    have hmembers := (Json.sorted_object_iff.1 h).2
    have hlist : Json.SortedItems [single] := hmembers _ (mem_of_listMember? hsingle)
    exact ih (Json.sortedItems_iff.1 hlist single (List.mem_singleton_self single))
  | case8 =>
    -- There are no properties.
    rintro - ⟨⟩
    exact .nil
  | case9 members _ _ _ _ inner hinner =>
    rintro h ⟨⟩
    have hmembers := (Json.sorted_object_iff.1 h).2
    have hmem := Json.mem_of_lookup (lookup_of_objectMember? hinner)
    have hascending := (Json.sorted_object_iff.1 (hmembers _ hmem)).1
    -- The name of each property is its key in the schema.
    have hnames : (inner.attach.map fun entry => entry.val.1) = inner.map (·.1) :=
      List.attach_map_val
    rw [List.map_map]
    exact hnames ▸ ascending_iff_keys.1 hascending
  | case12 members _ _ _ name =>
    intro _ hobject
    exact absurd hobject (scalar_ne_object name _ properties)
  | _ => rintro - ⟨⟩

end ApiModels.Shape
