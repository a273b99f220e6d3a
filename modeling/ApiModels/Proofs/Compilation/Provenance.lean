import ApiModels.Proofs.Compilation.Lowering
import ApiModels.Proofs.Compilation.Names
import Mathlib.Data.List.Perm.Basic

/-!
# Where declarations come from

Every declaration of a compilation comes from the schema of one owner: its own declaration, or an
enumeration that is written in line in one of its properties. As long as all names are distinct the
name tells the schema (`sourceOf?_of_mem`).
-/

namespace ApiModels

/-- The source that a declaration names is the schema or a property of the schema. -/
def Declaration.StemsFrom (d : Declaration) (schema : String) : Prop :=
  d.sourceName = some schema ∨ ∃ property, d.sourceName = some (schema ++ "." ++ property)

namespace CompileContext

variable (ctx : CompileContext)

/-- The names that an owner declares. -/
def declaredNames (owner : Owner) : List String := owner.typeName :: ctx.inlineNames owner

/-- The schema that a declaration of the given name comes from; an enumeration in line comes from
the schema of its record. -/
def sourceOf? (name : String) : Option String :=
  (ctx.owners.find? fun owner => (ctx.declaredNames owner).contains name).map (·.schema)

theorem nodup_declaredNames (h : ctx.HasDistinctNames) :
    (ctx.owners.flatMap ctx.declaredNames).Nodup := by
  have hperm : (ctx.owners.map (·.typeName) ++ ctx.owners.flatMap ctx.inlineNames).Perm
      (ctx.owners.flatMap ctx.declaredNames) :=
    List.map_append_flatMap_perm ctx.owners (·.typeName) ctx.inlineNames
  exact hperm.nodup_iff.1 (List.perm_append_comm.nodup_iff.1 h)

theorem find?_of_nodup_flatMap {α : Type} {names : α → List String} {l : List α}
    (h : (l.flatMap names).Nodup) {a : α} (ha : a ∈ l) {name : String} (hname : name ∈ names a) :
    l.find? (fun b => (names b).contains name) = some a := by
  induction l with
  | nil => cases ha
  | cons b l ih =>
    rw [List.flatMap_cons, List.nodup_append] at h
    obtain ⟨-, hrest, hdisjoint⟩ := h
    by_cases hb : name ∈ names b
    · rcases List.mem_cons.1 ha with rfl | ha
      · exact List.find?_cons_of_pos (List.contains_iff_mem.2 hb)
      · have hmem : name ∈ l.flatMap names := List.mem_flatMap.2 ⟨a, ha, hname⟩
        exact absurd rfl (hdisjoint name hb name hmem)
    · rw [List.find?_cons_of_neg (by rwa [List.contains_iff_mem])]
      rcases List.mem_cons.1 ha with rfl | ha
      · exact absurd hname hb
      · exact ih hrest ha

/-- **The name of a declaration tells the schema.** -/
theorem sourceOf?_of_mem (h : (ctx.owners.flatMap ctx.declaredNames).Nodup) {owner : Owner}
    (howner : owner ∈ ctx.owners) {name : String} (hname : name ∈ ctx.declaredNames owner) :
    ctx.sourceOf? name = some owner.schema := by
  rw [sourceOf?, find?_of_nodup_flatMap h howner hname]
  rfl

/-! ### What owners declare -/

variable {ctx}

theorem name_of_compileEnum? {owner : Owner} {e : EnumType} (h : ctx.compileEnum? owner = some e) :
    e.name = owner.typeName ∧ e.sourceName = some owner.schema := by
  unfold compileEnum? at h
  split at h
  · cases h
    exact ⟨rfl, rfl⟩
  · cases h

theorem name_of_record? {owner : Owner} {r : RecordType} (h : ctx.record? owner = some r) :
    r.name = owner.typeName ∧ r.sourceName = some owner.schema := by
  unfold record? at h
  split at h
  · cases h
    exact ⟨rfl, rfl⟩
  · cases h

theorem sourceName_of_mem_inlineEnums {owner : Owner} {e : EnumType}
    (h : e ∈ ctx.inlineEnums owner) :
    ∃ property, e.sourceName = some (owner.schema ++ "." ++ property) := by
  obtain ⟨property, -, he⟩ := List.mem_filterMap.1 h
  unfold inlineEnum? at he
  split at he
  · cases he
  · cases he
    exact ⟨property.name, rfl⟩

theorem isGenerated_of_mem_inlineNames {owner : Owner} (howner : IsGenerated owner.typeName)
    {name : String} (h : name ∈ ctx.inlineNames owner) : IsGenerated name := by
  obtain ⟨e, he, rfl⟩ := List.mem_map.1 h
  obtain ⟨property, -, hinline⟩ := List.mem_filterMap.1 he
  unfold inlineEnum? at hinline
  split at hinline
  · cases hinline
  · cases hinline
    exact isGenerated_inlineName howner property.name

theorem declarations_of_free (h : ctx.HasDistinctNames) :
    ctx.declarations = (ctx.owners.filterMap ctx.compileEnum?).map .enum ++
      (ctx.owners.flatMap ctx.inlineEnums).map .enum ++
      (propagateEquatable (ctx.owners.filterMap ctx.record?)).map .record := by
  unfold declarations schemaEnums
  rw [ctx.recordsAndInline_of_free h]
  rfl

/-! ### Names of declarations -/

theorem nodup_names_declarations (h : ctx.HasDistinctNames) :
    (ctx.declarations.map (·.name)).Nodup :=
  ctx.nodup_name_declarations (List.nodup_append.1 h).2.1

theorem exists_sourceOf?_of_mem_declarations (h : ctx.HasDistinctNames) {d : Declaration}
    (hd : d ∈ ctx.declarations) :
    ∃ schema, ctx.sourceOf? d.name = some schema ∧ d.StemsFrom schema := by
  have hnodup := ctx.nodup_declaredNames h
  rw [declarations_of_free h, List.mem_append, List.mem_append] at hd
  rcases hd with (hd | hd) | hd
  · obtain ⟨e, he, rfl⟩ := List.mem_map.1 hd
    obtain ⟨owner, howner, he⟩ := List.mem_filterMap.1 he
    obtain ⟨hname, hsource⟩ := name_of_compileEnum? he
    have hmem : e.name ∈ ctx.declaredNames owner := hname ▸ List.mem_cons_self
    exact ⟨owner.schema, ctx.sourceOf?_of_mem hnodup howner hmem, .inl hsource⟩
  · obtain ⟨e, he, rfl⟩ := List.mem_map.1 hd
    obtain ⟨owner, howner, he⟩ := List.mem_flatMap.1 he
    have hmem : e.name ∈ ctx.declaredNames owner :=
      List.mem_cons_of_mem _ (List.mem_map_of_mem he)
    exact ⟨owner.schema, ctx.sourceOf?_of_mem hnodup howner hmem,
      .inr (sourceName_of_mem_inlineEnums he)⟩
  · obtain ⟨r, hr, rfl⟩ := List.mem_map.1 hd
    -- Propagation changes neither the name nor the source of a record.
    have hpropagate := map_propagateEquatable (f := fun r => (r.name, r.sourceName))
      (fun names r => by simp) (ctx.owners.filterMap ctx.record?)
    have hpair := List.mem_map_of_mem (f := fun r : RecordType => (r.name, r.sourceName)) hr
    rw [hpropagate] at hpair
    obtain ⟨s, hs, heq⟩ := List.mem_map.1 hpair
    obtain ⟨owner, howner, hs⟩ := List.mem_filterMap.1 hs
    obtain ⟨hname, hsource⟩ := name_of_record? hs
    obtain ⟨hrname, hrsource⟩ := Prod.mk.inj heq
    have hmem : r.name ∈ ctx.declaredNames owner := by
      rw [← hrname, hname]
      exact List.mem_cons_self
    have hrsource' : r.sourceName = some owner.schema := hrsource.symm.trans hsource
    exact ⟨owner.schema, ctx.sourceOf?_of_mem hnodup howner hmem, .inl hrsource'⟩

end CompileContext

end ApiModels
