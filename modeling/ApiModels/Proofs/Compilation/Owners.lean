import ApiModels.Compilation.Context
import ApiModels.Proofs.Keyed.Lookup
import ApiModels.Shape.Equality

/-!
# Which schemas own a declaration

Schemas are visited in ascending order, and one that is to be declared owns the declaration of its
type name unless the name is taken. So of all schemas with one type name the least one owns it
(`mem_ownersAmong`); the owners are in the order of the schemas (`pairwise_owners`) and no two of
them have the same type name (`nodup_typeName_owners`).
-/

namespace ApiModels

deriving instance DecidableEq for Owner

/-! ### Owners among schemas -/

section Among

/-- **A schema owns a declaration if it is to be declared and its type name is free**, and then the
name is taken; else it is passed over. -/
theorem ownersAmong_cons (typeName : String → String) (taken : List String) (schema : String)
    (shape : Shape) (shapes : List (String × Shape)) :
    (shape.isDeclared = true ∧ typeName schema ∉ taken ∧
      ownersAmong typeName taken ((schema, shape) :: shapes) =
        ⟨schema, typeName schema, shape⟩ ::
          ownersAmong typeName (typeName schema :: taken) shapes) ∨
    ((shape.isDeclared = true → typeName schema ∈ taken) ∧
      ownersAmong typeName taken ((schema, shape) :: shapes) =
        ownersAmong typeName taken shapes) := by
  by_cases howns : shape.isDeclared = true ∧ typeName schema ∉ taken
  · exact .inl ⟨howns.1, howns.2, by simp [ownersAmong, howns]⟩
  · have hskipped : shape.isDeclared = true → typeName schema ∈ taken := by simpa using howns
    refine .inr ⟨hskipped, ?_⟩
    rw [ownersAmong]
    exact if_neg (by simpa using hskipped)

variable {typeName : String → String} {taken : List String} {shapes : List (String × Shape)}
  {schema : String} {shape : Shape}

/-- Shapes may be changed, as long as the same schemas are declared. -/
theorem ownersAmong_map {f : String → Shape → Shape}
    (h : ∀ entry ∈ shapes, (f entry.1 entry.2).isDeclared = entry.2.isDeclared) :
    ownersAmong typeName taken (shapes.map fun entry => (entry.1, f entry.1 entry.2)) =
      (ownersAmong typeName taken shapes).map fun owner =>
        { owner with shape := f owner.schema owner.shape } := by
  induction shapes generalizing taken with
  | nil => rfl
  | cons entry shapes ih =>
    have hfirst := h entry List.mem_cons_self
    have hrest := fun other hmem => h other (List.mem_cons_of_mem entry hmem)
    obtain ⟨schema, shape⟩ := entry
    rw [List.map_cons, ownersAmong, ownersAmong, hfirst, ih hrest, ih hrest]
    split
    · rw [List.map_cons]
    · rfl

theorem typeName_not_mem_taken {owner : Owner} (h : owner ∈ ownersAmong typeName taken shapes) :
    owner.typeName ∉ taken := by
  induction shapes generalizing taken with
  | nil => cases h
  | cons entry shapes ih =>
    rcases ownersAmong_cons typeName taken entry.1 entry.2 shapes with
      ⟨-, hfree, howns⟩ | ⟨-, hskips⟩
    · rw [howns] at h
      rcases List.mem_cons.1 h with rfl | h
      · exact hfree
      · exact fun hmem => ih h (List.mem_cons_of_mem _ hmem)
    · rw [hskips] at h
      exact ih h

theorem nodup_typeName_ownersAmong :
    ((ownersAmong typeName taken shapes).map (·.typeName)).Nodup := by
  induction shapes generalizing taken with
  | nil => exact List.nodup_nil
  | cons entry shapes ih =>
    rcases ownersAmong_cons typeName taken entry.1 entry.2 shapes with
      ⟨-, -, howns⟩ | ⟨-, hskips⟩
    · rw [howns, List.map_cons, List.nodup_cons]
      refine ⟨fun hmem => ?_, ih⟩
      obtain ⟨owner, howner, hname⟩ := List.mem_map.1 hmem
      exact typeName_not_mem_taken howner (hname ▸ List.mem_cons_self)
    · rw [hskips]
      exact ih

theorem sublist_schema_ownersAmong :
    ((ownersAmong typeName taken shapes).map (·.schema)).Sublist (shapes.map (·.1)) := by
  induction shapes generalizing taken with
  | nil => exact .slnil
  | cons entry shapes ih =>
    rcases ownersAmong_cons typeName taken entry.1 entry.2 shapes with
      ⟨-, -, howns⟩ | ⟨-, hskips⟩
    · rw [howns]
      exact ih.cons_cons entry.1
    · rw [hskips]
      exact ih.cons entry.1

theorem typeName_mem_of_isDeclared (hmem : (schema, shape) ∈ shapes)
    (hdeclared : shape.isDeclared = true) :
    typeName schema ∈ taken ∨
      typeName schema ∈ (ownersAmong typeName taken shapes).map (·.typeName) := by
  induction shapes generalizing taken with
  | nil => cases hmem
  | cons entry shapes ih =>
    obtain ⟨first, firstShape⟩ := entry
    rcases ownersAmong_cons typeName taken first firstShape shapes with
      ⟨-, -, howns⟩ | ⟨hskipped, hskips⟩
    · rw [howns, List.map_cons, List.mem_cons]
      rcases List.mem_cons.1 hmem with heq | hmem
      · cases heq
        exact .inr (.inl rfl)
      · have hrest : typeName schema ∈ typeName first :: taken ∨
            typeName schema ∈
              (ownersAmong typeName (typeName first :: taken) shapes).map (·.typeName) := ih hmem
        rcases hrest with htaken | hname
        · exact (List.mem_cons.1 htaken).elim (fun h => .inr (.inl h)) .inl
        · exact .inr (.inr hname)
    · rw [hskips]
      rcases List.mem_cons.1 hmem with heq | hmem
      · cases heq
        exact .inl (hskipped hdeclared)
      · exact ih hmem

/-- **An owner is the least of the declared schemas with its type name**, if the name was free. -/
theorem mem_ownersAmong (hshapes : Ascending shapes) {owner : Owner} :
    owner ∈ ownersAmong typeName taken shapes ↔
      (owner.schema, owner.shape) ∈ shapes ∧ owner.shape.isDeclared = true ∧
        owner.typeName = typeName owner.schema ∧ owner.typeName ∉ taken ∧
        ∀ entry ∈ shapes, entry.2.isDeclared = true → typeName entry.1 = owner.typeName →
          owner.schema ≤ entry.1 := by
  induction shapes generalizing taken with
  | nil => simp [ownersAmong]
  | cons entry shapes ih =>
    obtain ⟨schema, shape⟩ := entry
    obtain ⟨hfirst, hrest⟩ := List.pairwise_cons.1 hshapes
    rcases ownersAmong_cons typeName taken schema shape shapes with
      ⟨hfirstDeclared, hfirstFree, howns⟩ | ⟨hskipped, hskips⟩
    · rw [howns, List.mem_cons, ih hrest]
      constructor
      · rintro (rfl | ⟨hmem, hdeclared, hname, hfree, hleast⟩)
        · refine ⟨List.mem_cons_self, hfirstDeclared, rfl, hfirstFree, fun entry hentry _ _ => ?_⟩
          rcases List.mem_cons.1 hentry with rfl | hentry
          · exact String.le_refl _
          · exact Std.le_of_lt (hfirst entry hentry)
        · rw [List.mem_cons, not_or] at hfree
          refine ⟨List.mem_cons_of_mem _ hmem, hdeclared, hname, hfree.2, fun entry hentry => ?_⟩
          rcases List.mem_cons.1 hentry with rfl | hentry
          · exact fun _ heq => absurd heq.symm hfree.1
          · exact hleast entry hentry
      · rintro ⟨hmem, hdeclared, hname, hfree, hleast⟩
        rcases List.mem_cons.1 hmem with heq | hmem
        · obtain ⟨other, otherName, otherShape⟩ := owner
          cases heq
          exact .inl (by rw [← hname])
        · -- The first schema comes before, so it cannot have the same type name.
          have hne : owner.typeName ≠ typeName schema := by
            intro heq
            have hle := hleast (schema, shape) List.mem_cons_self hfirstDeclared heq.symm
            exact String.not_lt.2 hle (hfirst _ hmem)
          refine .inr ⟨hmem, hdeclared, hname, ?_, fun entry hentry => ?_⟩
          · rw [List.mem_cons, not_or]
            exact ⟨hne, hfree⟩
          · exact hleast entry (List.mem_cons_of_mem _ hentry)
    · rw [hskips, ih hrest]
      constructor
      · rintro ⟨hmem, hdeclared, hname, hfree, hleast⟩
        refine ⟨List.mem_cons_of_mem _ hmem, hdeclared, hname, hfree, fun entry hentry => ?_⟩
        rcases List.mem_cons.1 hentry with rfl | hentry
        · exact fun hdeclared heq => absurd (heq ▸ hskipped hdeclared) hfree
        · exact hleast entry hentry
      · rintro ⟨hmem, hdeclared, hname, hfree, hleast⟩
        rcases List.mem_cons.1 hmem with heq | hmem
        · cases heq
          exact absurd (hname ▸ hskipped hdeclared) hfree
        · exact ⟨hmem, hdeclared, hname, hfree, fun entry hentry =>
            hleast entry (List.mem_cons_of_mem _ hentry)⟩

end Among

/-! ### Owners of a document -/

namespace CompileContext

/-- The context in which a document is compiled. -/
def ofDocument (d : Document) (settings : Settings) : CompileContext :=
  ofGraph (.ofDocument d) settings

theorem mem_owners_schema {ctx : CompileContext} {target name : String}
    (h : ctx.ownedName? target = some name) :
    ∃ owner ∈ ctx.owners, owner.schema = target ∧ owner.typeName = name := by
  obtain ⟨owner, hfind, hname⟩ := Option.map_eq_some_iff.1 h
  exact ⟨owner, List.mem_of_find?_eq_some hfind, by simpa using List.find?_some hfind, hname⟩

variable (d : Document) (settings : Settings)

theorem mem_shapes_ofDocument {schema : String} {shape : Shape} :
    (schema, shape) ∈ (ofDocument d settings).shapes ↔
      ∃ definition, (schema, definition) ∈ d.schemas ∧ Shape.detect definition = shape := by
  constructor
  · intro h
    obtain ⟨⟨name, definition⟩, hmem, heq⟩ := List.mem_map.1 h
    cases heq
    exact ⟨definition, hmem, rfl⟩
  · rintro ⟨definition, hmem, rfl⟩
    exact List.mem_map.2 ⟨(schema, definition), hmem, rfl⟩

theorem ascending_shapes : Ascending (ofDocument d settings).shapes := by
  have hschemas : Ascending d.schemas := (Json.sorted_object_iff.1 d.sorted_schemas).1
  refine ascending_iff_keys.2 ?_
  unfold ofDocument ofGraph
  rw [List.map_map]
  exact ascending_iff_keys.1 hschemas

theorem mem_owners {owner : Owner} :
    owner ∈ (ofDocument d settings).owners ↔
      (owner.schema, owner.shape) ∈ (ofDocument d settings).shapes ∧
        owner.shape.isDeclared = true ∧ owner.typeName = settings.naming.typeName owner.schema ∧
        ∀ entry ∈ (ofDocument d settings).shapes, entry.2.isDeclared = true →
          settings.naming.typeName entry.1 = owner.typeName → owner.schema ≤ entry.1 := by
  have howners : (ofDocument d settings).owners =
      ownersAmong settings.naming.typeName [] (ofDocument d settings).shapes := rfl
  rw [howners, mem_ownersAmong (ascending_shapes d settings)]
  simp only [List.not_mem_nil, not_false_eq_true, true_and]

theorem pairwise_owners :
    ((ofDocument d settings).owners.map (·.schema)).Pairwise (· < ·) :=
  (ascending_iff_keys.1 (ascending_shapes d settings)).sublist sublist_schema_ownersAmong

theorem nodup_typeName_owners : ((ofDocument d settings).owners.map (·.typeName)).Nodup :=
  nodup_typeName_ownersAmong

/-- The type name of a schema that is to be declared is owned by the schema or an earlier one. -/
theorem exists_owner_le {schema : String} {shape : Shape}
    (hmem : (schema, shape) ∈ (ofDocument d settings).shapes)
    (hdeclared : shape.isDeclared = true) :
    ∃ owner ∈ (ofDocument d settings).owners,
      owner.typeName = settings.naming.typeName schema ∧ owner.schema ≤ schema := by
  have hname : settings.naming.typeName schema ∈ [] ∨
      settings.naming.typeName schema ∈ (ofDocument d settings).owners.map (·.typeName) :=
    typeName_mem_of_isDeclared hmem hdeclared
  rcases hname with hnil | hname
  · cases hnil
  · obtain ⟨owner, howner, hname⟩ := List.mem_map.1 hname
    obtain ⟨-, -, -, hleast⟩ := (mem_owners d settings).1 howner
    exact ⟨owner, howner, hname, hleast _ hmem hdeclared hname.symm⟩

end CompileContext

end ApiModels
