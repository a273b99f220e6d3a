import ApiModels.Proofs.Compilation.Inline
import ApiModels.Proofs.Compilation.Lookups
import ApiModels.Proofs.Reference.Restriction

/-!
# Compiling part of the schemas

The context of a restricted graph knows the schemas that are kept, and about these it agrees with
the context of the whole graph (`agreesOn_restrict`). As long as the schemas that are kept lead to
no others, a walk from one of them does not tell the two contexts apart (`AgreesOn.walk_eq`), and so
each owner that is kept declares the same in both.
-/

namespace ApiModels

namespace CompileContext

/-! ### Owners -/

/-- The type names of the schemas that are to be declared are distinct. -/
def HasDistinctTypeNames (ctx : CompileContext) : Prop :=
  ((ctx.shapes.filter fun entry => entry.2.isDeclared).map fun entry =>
    ctx.settings.naming.typeName entry.1).Nodup

theorem ownersAmong_of_nodup {typeName : String → String} {taken : List String}
    {shapes : List (String × Shape)}
    (h : ((shapes.filter fun entry => entry.2.isDeclared).map fun entry => typeName entry.1).Nodup)
    (htaken : ∀ entry ∈ shapes, entry.2.isDeclared = true → typeName entry.1 ∉ taken) :
    ownersAmong typeName taken shapes = (shapes.filter fun entry => entry.2.isDeclared).map
      fun entry => ⟨entry.1, typeName entry.1, entry.2⟩ := by
  induction shapes generalizing taken with
  | nil => rfl
  | cons entry shapes ih =>
    obtain ⟨schema, shape⟩ := entry
    have hrest := fun entry hmem => htaken entry (List.mem_cons_of_mem _ hmem)
    rw [ownersAmong, List.filter_cons]
    by_cases hdeclared : shape.isDeclared = true
    · rw [List.filter_cons, if_pos hdeclared, List.map_cons, List.nodup_cons] at h
      have hfree : taken.contains (typeName schema) = false := by
        rw [← Bool.not_eq_true, List.contains_iff_mem]
        exact htaken _ List.mem_cons_self hdeclared
      have hnext : ∀ entry ∈ shapes, entry.2.isDeclared = true →
          typeName entry.1 ∉ typeName schema :: taken := by
        intro entry hmem hentry hname
        rcases List.mem_cons.1 hname with heq | hname
        · exact h.1 (List.mem_map.2 ⟨entry, List.mem_filter.2 ⟨hmem, hentry⟩, heq⟩)
        · exact hrest entry hmem hentry hname
      simp only [hdeclared, hfree, Bool.not_false, Bool.and_self, if_true, ih h.2 hnext,
        List.map_cons]
    · rw [List.filter_cons, if_neg hdeclared] at h
      rw [Bool.not_eq_true] at hdeclared
      simp only [hdeclared, Bool.false_and, Bool.false_eq_true, if_false]
      exact ih h hrest

section Graph

variable (g : ReferenceGraph) (settings : Settings) (keep : String → Bool)

theorem owners_ofGraph (h : (ofGraph g settings).HasDistinctTypeNames) :
    (ofGraph g settings).owners =
      ((ofGraph g settings).shapes.filter fun entry => entry.2.isDeclared).map
        fun entry => ⟨entry.1, settings.naming.typeName entry.1, entry.2⟩ :=
  ownersAmong_of_nodup h fun _ _ _ hmem => nomatch hmem

theorem nodup_typeNames (h : (ofGraph g settings).HasDistinctTypeNames) :
    ((ofGraph g settings).owners.map (·.typeName)).Nodup := by
  rw [owners_ofGraph g settings h, List.map_map]
  exact h

theorem mem_shapes_of_mem_owners (h : (ofGraph g settings).HasDistinctTypeNames) {owner : Owner}
    (howner : owner ∈ (ofGraph g settings).owners) :
    (owner.schema, owner.shape) ∈ (ofGraph g settings).shapes := by
  rw [owners_ofGraph g settings h] at howner
  obtain ⟨entry, hentry, rfl⟩ := List.mem_map.1 howner
  exact (List.mem_filter.1 hentry).1

theorem shapes_restrict : (ofGraph (g.restrict keep) settings).shapes =
    (ofGraph g settings).shapes.filter fun entry => keep entry.1 := by
  unfold ofGraph ReferenceGraph.restrict
  rw [List.filter_map]
  rfl

theorem hasDistinctTypeNames_restrict (h : (ofGraph g settings).HasDistinctTypeNames) :
    (ofGraph (g.restrict keep) settings).HasDistinctTypeNames := by
  unfold HasDistinctTypeNames at *
  rw [shapes_restrict]
  refine h.sublist (List.Sublist.map _ ?_)
  exact (List.filter_sublist.filter _)

theorem owners_restrict (h : (ofGraph g settings).HasDistinctTypeNames) :
    (ofGraph (g.restrict keep) settings).owners =
      (ofGraph g settings).owners.filter fun owner => keep owner.schema := by
  have hrestricted := hasDistinctTypeNames_restrict g settings keep h
  rw [owners_ofGraph g settings h, owners_ofGraph _ settings hrestricted, shapes_restrict,
    List.filter_map, List.filter_filter, List.filter_filter]
  refine congrArg _ (List.filter_congr fun entry _ => ?_)
  exact Bool.and_comm _ _

end Graph

/-! ### Contexts that agree -/

/-- Two contexts with the same settings know the same about the schemas that are kept. -/
structure AgreesOn (keep : String → Bool) (ctx ctx' : CompileContext) : Prop where
  settings : ctx'.settings = ctx.settings
  schema : ∀ name, keep name = true → ctx'.graph.get? name = ctx.graph.get? name
  shape : ∀ name, keep name = true → ctx'.shapes.lookup name = ctx.shapes.lookup name
  ownedName : ∀ name, keep name = true → ctx'.ownedName? name = ctx.ownedName? name

theorem agreesOn_restrict (g : ReferenceGraph) (settings : Settings) (keep : String → Bool)
    (h : (ofGraph g settings).HasDistinctTypeNames) :
    AgreesOn keep (ofGraph g settings) (ofGraph (g.restrict keep) settings) := by
  refine ⟨rfl, fun name hkeep => ReferenceGraph.get?_restrict hkeep, fun name hkeep => ?_,
    fun name hkeep => ?_⟩
  · rw [shapes_restrict]
    exact lookup_filter hkeep
  · unfold ownedName?
    rw [owners_restrict g settings keep h, List.find?_filter]
    refine congrArg _ (congrFun (congrArg _ (funext fun owner => ?_)) _)
    by_cases heq : owner.schema = name
    · simp [heq, hkeep]
    · simp [heq]

/-- The shapes of kept schemas refer to kept schemas only. -/
def ShapesClosed (keep : String → Bool) (ctx : CompileContext) : Prop :=
  ∀ entry ∈ ctx.shapes, keep entry.1 = true → ∀ target, entry.2.RefersTo target →
    keep target = true

namespace AgreesOn

variable {keep : String → Bool} {ctx ctx' : CompileContext}

theorem knowsAlike (h : AgreesOn keep ctx ctx') {name : String} (hkeep : keep name = true) :
    ctx.KnowsAlike ctx' name := by
  have hshape := h.shape name hkeep
  cases hsome : ctx.shapes.lookup name with
  | none => exact .missing hsome (hshape.trans hsome)
  | some shape =>
    have hsome' := hshape.trans hsome
    by_cases hdeclared : shape.isDeclared = true
    · exact .declared hsome hsome' hdeclared hdeclared (h.ownedName name hkeep)
    · exact .same hsome hsome' hdeclared

/-- **A walk among kept schemas is the same in both contexts.** -/
theorem walk_eq (h : AgreesOn keep ctx ctx') (hclosed : ctx.ShapesClosed keep)
    (followed : List String) (shape : Shape)
    (hshape : ∀ target, shape.RefersTo target → keep target = true) :
    ctx'.walk followed shape = ctx.walk followed shape := by
  refine walk_congr fun name hname => h.knowsAlike ?_
  exact forall_mem_lookups (p := fun name => keep name = true) hclosed hshape name hname

end AgreesOn

theorem LeadsTo.keeps {keep : String → Bool} {ctx : CompileContext}
    (hclosed : ctx.ShapesClosed keep) {shape : Shape} {schema : String}
    (h : ctx.LeadsTo shape schema) (hshape : ∀ target, shape.RefersTo target → keep target = true) :
    keep schema = true := by
  induction h with
  | declared => exact hshape _ .reference
  | through hlookup _ _ ih =>
    exact ih (hclosed _ (Json.mem_of_lookup hlookup) (hshape _ .reference))
  | array _ ih => exact ih fun target htarget => hshape target (.array htarget)

theorem exists_ownedName?_of_walk {keep : String → Bool} {ctx : CompileContext}
    (hclosed : ctx.ShapesClosed keep) {followed : List String} {shape : Shape}
    (hshape : ∀ target, shape.RefersTo target → keep target = true) {type : FieldType}
    (hstop : (ctx.walk followed shape).stop = .type type) {name : String}
    (hname : type.named? = some name) :
    ∃ target, keep target = true ∧ ctx.ownedName? target = some name := by
  obtain ⟨schema, hleads, howned⟩ := exists_leadsTo_of_walk hstop hname
  exact ⟨schema, hleads.keeps hclosed hshape, howned⟩

/-! ### What kept owners declare -/

theorem refersTo_of_mem_sources {owner : Owner} {property : PropertyShape Shape}
    (hproperty : property ∈ owner.sources) {target : String} (h : property.shape.RefersTo target) :
    owner.shape.RefersTo target := by
  unfold Owner.sources at hproperty
  cases hrole : owner.shape.role with
  | record sources =>
    rw [hrole] at hproperty
    exact refersTo_of_role hrole hproperty h
  | _ =>
    rw [hrole] at hproperty
    cases hproperty

namespace AgreesOn

variable {keep : String → Bool} {ctx ctx' : CompileContext} {owner : Owner}

section

variable (h : AgreesOn keep ctx ctx') (hclosed : ctx.ShapesClosed keep)
  (howner : (owner.schema, owner.shape) ∈ ctx.shapes) (hkeep : keep owner.schema = true)

include h hclosed howner hkeep

theorem walk_source_eq {property : PropertyShape Shape} (hproperty : property ∈ owner.sources) :
    ctx'.walk [] property.shape = ctx.walk [] property.shape :=
  h.walk_eq hclosed [] property.shape fun target htarget =>
    hclosed (owner.schema, owner.shape) howner hkeep target
      (refersTo_of_mem_sources hproperty htarget)

theorem inlineEnums_eq : ctx'.inlineEnums owner = ctx.inlineEnums owner := by
  unfold inlineEnums
  refine List.filterMap_congr fun property hproperty => ?_
  unfold inlineEnum? enumCases
  rw [h.walk_source_eq hclosed howner hkeep hproperty, h.settings]

theorem record?_eq : ctx'.record? owner = ctx.record? owner := by
  unfold record?
  cases hrole : owner.shape.role with
  | record sources =>
    have hsources := Owner.sources_of_role hrole
    have htypes : sources.map (ctx'.declaredType owner) = sources.map (ctx.declaredType owner) := by
      refine List.map_congr_left fun property hproperty => ?_
      unfold declaredType
      rw [h.walk_source_eq hclosed howner hkeep (hsources ▸ hproperty)]
    simp only [htypes]
    unfold recordOf description properties CompileContext.property
    rw [h.schema owner.schema hkeep, h.settings]
  | _ => rfl

omit hclosed howner in
theorem compileEnum?_eq : ctx'.compileEnum? owner = ctx.compileEnum? owner := by
  unfold compileEnum? description enumCases
  rw [h.schema owner.schema hkeep, h.settings]

end

end AgreesOn

end CompileContext

end ApiModels
