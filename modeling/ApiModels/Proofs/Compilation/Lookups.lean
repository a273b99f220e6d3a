import ApiModels.Proofs.Compilation.Leading
import ApiModels.Proofs.Shape.Targets

/-!
# What a walk looks up

A walk looks up the target of every reference that it meets, and nothing else; `lookups` lists these
schemas. Contexts that know the same about them lead the walk the same way (`walk_congr`). All of
them are schemas to which references lead from the shape where the walk starts: a property that
references hand on holds of everything that is looked up (`forall_mem_lookups`).
-/

namespace ApiModels

namespace CompileContext

/-- The schemas that a walk looks up, in the order of the walk. -/
def lookups (ctx : CompileContext) (followed : List String) : Shape → List String
  | .array items => lookups ctx followed items
  | .reference target =>
    match h : ctx.shapes.lookup target with
    | none => [target]
    | some shape =>
      if shape.isDeclared then [target]
      else if hnew : target ∈ followed then [target]
      else
        have := ctx.length_unfollowed_cons_lt h hnew
        target :: lookups ctx (target :: followed) shape
  | _ => []
termination_by shape => ((ctx.unfollowed followed).length, sizeOf shape)

/-- The schemas that are looked up for a schema with the shape: by the walks from the properties of
a record, and by a walk that comes through an alias. -/
def lookupsFor (ctx : CompileContext) (shape : Shape) : List String :=
  match shape.role with
  | .enum _ => []
  | .record sources => sources.flatMap fun source => ctx.lookups [] source.shape
  | .alias => ctx.lookups [] shape

/-- Two contexts tell a walk the same about a schema: it is missing in both, declared under the same
name in both, or the same alias in both. -/
inductive KnowsAlike (ctx ctx' : CompileContext) (name : String) : Prop
  | missing (h : ctx.shapes.lookup name = none) (h' : ctx'.shapes.lookup name = none)
  | declared {shape shape' : Shape} (h : ctx.shapes.lookup name = some shape)
      (h' : ctx'.shapes.lookup name = some shape') (hdeclared : shape.isDeclared = true)
      (hdeclared' : shape'.isDeclared = true) (howned : ctx'.ownedName? name = ctx.ownedName? name)
  | same {shape : Shape} (h : ctx.shapes.lookup name = some shape)
      (h' : ctx'.shapes.lookup name = some shape) (halias : ¬ shape.isDeclared = true)

section Walk

variable {ctx ctx' : CompileContext} {followed : List String} {shape : Shape}

theorem mem_lookups_reference {target : String} :
    target ∈ ctx.lookups followed (.reference target) := by
  rw [lookups]
  split
  · exact List.mem_cons_self
  · split
    · exact List.mem_cons_self
    · split <;> exact List.mem_cons_self

theorem mem_lookups_of_through {target name : String}
    (hlookup : ctx.shapes.lookup target = some shape) (halias : ¬ shape.isDeclared = true)
    (hfollowed : target ∉ followed) (h : name ∈ ctx.lookups (target :: followed) shape) :
    name ∈ ctx.lookups followed (.reference target) := by
  rw [lookups]
  split
  · next hnone => cases hnone.symm.trans hlookup
  · next other hother =>
    cases hlookup.symm.trans hother
    rw [if_neg halias, dif_neg hfollowed]
    exact List.mem_cons_of_mem target h

/-- **A walk depends only on what it looks up.** -/
theorem walk_congr (h : ∀ name ∈ ctx.lookups followed shape, ctx.KnowsAlike ctx' name) :
    ctx'.walk followed shape = ctx.walk followed shape := by
  fun_induction lookups ctx followed shape with
  | case1 followed items ih =>
    rw [walk, walk, ih h]
  | case2 followed target hnone =>
    cases h target List.mem_cons_self with
    | missing _ hnone' => rw [walk_reference_of_none hnone, walk_reference_of_none hnone']
    | declared hsome => cases hnone.symm.trans hsome
    | same hsome => cases hnone.symm.trans hsome
  | case3 followed target shape hsome hdeclared =>
    cases h target List.mem_cons_self with
    | missing hnone => cases hnone.symm.trans hsome
    | declared _ hsome' _ hdeclared' howned =>
      rw [walk_reference_of_isDeclared hsome hdeclared,
        walk_reference_of_isDeclared hsome' hdeclared', howned]
    | same hother _ halias =>
      cases hsome.symm.trans hother
      exact absurd hdeclared halias
  | case4 followed target shape hsome halias hfollowed =>
    cases h target List.mem_cons_self with
    | missing hnone => cases hnone.symm.trans hsome
    | declared hother _ hdeclared =>
      cases hsome.symm.trans hother
      exact absurd hdeclared halias
    | same hother hother' =>
      cases hsome.symm.trans hother
      rw [walk_reference_of_mem hsome halias hfollowed,
        walk_reference_of_mem hother' halias hfollowed]
  | case5 followed target shape hsome halias hfollowed _ ih =>
    have hrest := ih fun name hname => h name (List.mem_cons_of_mem target hname)
    cases h target List.mem_cons_self with
    | missing hnone => cases hnone.symm.trans hsome
    | declared hother _ hdeclared =>
      cases hsome.symm.trans hother
      exact absurd hdeclared halias
    | same hother hother' =>
      cases hsome.symm.trans hother
      rw [walk_reference_of_not_mem hsome halias hfollowed,
        walk_reference_of_not_mem hother' halias hfollowed, hrest]
  | case6 followed shape harray hreference =>
    -- No other shape leads a walk anywhere.
    cases shape with
    | array items => exact absurd rfl (harray items)
    | reference target => exact absurd rfl (hreference target)
    | _ => rw [walk, walk] <;> simp

/-- **What references hand on holds of all that a walk looks up**, if it holds of the targets of the
references in the shape where the walk starts. -/
theorem forall_mem_lookups {p : String → Prop}
    (hclosed : ∀ entry ∈ ctx.shapes, p entry.1 → ∀ target, entry.2.RefersTo target → p target)
    (hshape : ∀ target, shape.RefersTo target → p target) :
    ∀ name ∈ ctx.lookups followed shape, p name := by
  fun_induction lookups ctx followed shape with
  | case1 followed items ih => exact ih fun target htarget => hshape target (.array htarget)
  | case2 | case3 | case4 =>
    -- The walk stops at the target of the reference.
    intro name hname
    rw [List.mem_singleton.1 hname]
    exact hshape _ .reference
  | case5 followed target shape hsome halias hfollowed _ ih =>
    have htarget := hshape target .reference
    have hmem : (target, shape) ∈ ctx.shapes := Json.mem_of_lookup hsome
    intro name hname
    rcases List.mem_cons.1 hname with rfl | hname
    · exact htarget
    · exact ih (hclosed _ hmem htarget) name hname
  | case6 => exact List.forall_mem_nil p

theorem refersTo_of_role {sources : List (PropertyShape Shape)} {source : PropertyShape Shape}
    {target : String} (hrole : shape.role = .record sources) (hsource : source ∈ sources)
    (h : source.shape.RefersTo target) : shape.RefersTo target := by
  cases shape with
  | object properties =>
    cases properties with
    | nil => cases hrole
    | cons first properties =>
      cases hrole
      exact .property hsource h
  | _ => cases hrole

theorem forall_mem_lookupsFor {p : String → Prop}
    (hclosed : ∀ entry ∈ ctx.shapes, p entry.1 → ∀ target, entry.2.RefersTo target → p target)
    (hshape : ∀ target, shape.RefersTo target → p target) :
    ∀ name ∈ ctx.lookupsFor shape, p name := by
  unfold lookupsFor
  cases hrole : shape.role with
  | enum values => exact List.forall_mem_nil p
  | record sources =>
    intro name hname
    obtain ⟨source, hsource, hname⟩ := List.mem_flatMap.1 hname
    have htargets : ∀ target, source.shape.RefersTo target → p target :=
      fun target htarget => hshape target (refersTo_of_role hrole hsource htarget)
    exact forall_mem_lookups hclosed htargets name hname
  | _ => exact forall_mem_lookups hclosed hshape

end Walk

end CompileContext

end ApiModels
