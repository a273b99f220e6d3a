import ApiModels.Compilation.Walk

/-!
# Where a walk leads

A walk from the shape of a property ends in one of three ways: at a declared schema, to which the
shape leads through arrays and references to aliases (`LeadsTo`); at an enumeration that the shape
itself holds inside its arrays (`Shape.HoldsInline`); or at a type that is no declaration. The
schema is the only one to which the shape leads (`LeadsTo.unique`), and the two kinds of ends
exclude each other.
-/

namespace ApiModels

/-- A shape is an enumeration, possibly inside of arrays. -/
inductive Shape.HoldsInline : Shape → List String → Prop
  | enumeration (values : List String) : HoldsInline (.enumeration values) values
  | array {items : Shape} {values : List String} (h : HoldsInline items values) :
    HoldsInline (.array items) values

theorem Shape.HoldsInline.unique {shape : Shape} {values values' : List String}
    (h : shape.HoldsInline values) (h' : shape.HoldsInline values') : values = values' := by
  induction h with
  | enumeration =>
    cases h'
    rfl
  | array _ ih =>
    cases h' with
    | array h' => exact ih h'

namespace CompileContext

variable (ctx : CompileContext)

/-- A shape leads to a declared schema: through arrays, and through references to schemas that are
no declarations themselves. -/
inductive LeadsTo : Shape → String → Prop
  | declared {target : String} {shape : Shape} (hlookup : ctx.shapes.lookup target = some shape)
      (hdeclared : shape.isDeclared = true) : LeadsTo (.reference target) target
  | through {target schema : String} {shape : Shape}
      (hlookup : ctx.shapes.lookup target = some shape) (halias : ¬ shape.isDeclared = true)
      (h : LeadsTo shape schema) : LeadsTo (.reference target) schema
  | array {items : Shape} {schema : String} (h : LeadsTo items schema) :
    LeadsTo (.array items) schema

/-! ### Steps of a walk -/

theorem walk_reference (followed : List String) (target : String) :
    ctx.walk followed (.reference target) =
      match ctx.shapes.lookup target with
      | none => .at .placeholder
      | some shape =>
        if shape.isDeclared then .at ((ctx.ownedName? target).elim .placeholder .named)
        else if target ∈ followed then .at .placeholder
        else ctx.walk (target :: followed) shape := by
  rw [walk]
  split
  · next hshape => rw [hshape]
  · next shape hshape =>
    simp only [hshape]
    rfl

section Reference

variable {ctx} {followed : List String} {target : String} {shape : Shape}

theorem walk_reference_of_none (hlookup : ctx.shapes.lookup target = none) :
    ctx.walk followed (.reference target) = .at .placeholder := by
  rw [walk_reference, hlookup]

theorem walk_reference_of_isDeclared (hlookup : ctx.shapes.lookup target = some shape)
    (hdeclared : shape.isDeclared = true) :
    ctx.walk followed (.reference target) =
      .at ((ctx.ownedName? target).elim .placeholder .named) := by
  rw [walk_reference, hlookup]
  simp only [hdeclared, if_true]

/-- The walk does not go round in circles. -/
theorem walk_reference_of_mem (hlookup : ctx.shapes.lookup target = some shape)
    (hdeclared : ¬ shape.isDeclared = true) (hfollowed : target ∈ followed) :
    ctx.walk followed (.reference target) = .at .placeholder := by
  rw [walk_reference, hlookup]
  simp only [hdeclared, hfollowed, Bool.false_eq_true, if_true, if_false]

/-- The walk goes on through an alias. -/
theorem walk_reference_of_not_mem (hlookup : ctx.shapes.lookup target = some shape)
    (hdeclared : ¬ shape.isDeclared = true) (hfollowed : target ∉ followed) :
    ctx.walk followed (.reference target) = ctx.walk (target :: followed) shape := by
  rw [walk_reference, hlookup]
  simp only [hdeclared, hfollowed, Bool.false_eq_true, if_false]

end Reference

/-! ### Ends of a walk -/

variable {ctx} {followed : List String} {shape : Shape}

theorem LeadsTo.unique {schema schema' : String} (h : ctx.LeadsTo shape schema)
    (h' : ctx.LeadsTo shape schema') : schema = schema' := by
  induction h generalizing schema' with
  | declared hlookup hdeclared =>
    cases h' with
    | declared => rfl
    | through hlookup' halias =>
      cases hlookup.symm.trans hlookup'
      exact absurd hdeclared halias
  | through hlookup halias _ ih =>
    cases h' with
    | declared hlookup' hdeclared =>
      cases hlookup.symm.trans hlookup'
      exact absurd hdeclared halias
    | through hlookup' _ h' =>
      cases hlookup.symm.trans hlookup'
      exact ih h'
  | array _ ih =>
    cases h' with
    | array h' => exact ih h'

theorem LeadsTo.not_holdsInline {schema : String} (h : ctx.LeadsTo shape schema)
    {values : List String} : ¬ shape.HoldsInline values := by
  induction h with
  | declared => exact fun hinline => nomatch hinline
  | through => exact fun hinline => nomatch hinline
  | array _ ih =>
    intro hinline
    cases hinline with
    | array hinline => exact ih hinline

/-- What a walk can end at, by the shape from which it starts and the schemas that it followed. -/
inductive EndsAt (ctx : CompileContext) (followed : List String) (shape : Shape) : WalkEnd → Prop
  /-- A type that is no declaration. -/
  | unnamed {type : FieldType} (h : type.named? = none) : EndsAt ctx followed shape (.type type)
  /-- The declaration that a schema owns. -/
  | declared {schema name : String} (hleads : ctx.LeadsTo shape schema)
    (howned : ctx.ownedName? schema = some name) : EndsAt ctx followed shape (.type (.named name))
  /-- An enumeration in line, before any reference was followed. -/
  | inlineEnum {values : List String} (hfollowed : followed = [])
    (hinline : shape.HoldsInline values) : EndsAt ctx followed shape (.inlineEnum values)

theorem EndsAt.array {items : Shape} {stop : WalkEnd} (h : EndsAt ctx followed items stop) :
    EndsAt ctx followed (.array items) stop := by
  cases h with
  | unnamed h => exact .unnamed h
  | declared hleads howned => exact .declared (.array hleads) howned
  | inlineEnum hfollowed hinline => exact .inlineEnum hfollowed (.array hinline)

theorem EndsAt.through {target : String} {stop : WalkEnd}
    (hlookup : ctx.shapes.lookup target = some shape) (halias : ¬ shape.isDeclared = true)
    (h : EndsAt ctx (target :: followed) shape stop) :
    EndsAt ctx followed (.reference target) stop := by
  cases h with
  | unnamed h => exact .unnamed h
  | declared hleads howned => exact .declared (.through hlookup halias hleads) howned
  | inlineEnum hfollowed _ => cases hfollowed

theorem named?_fieldType (type : ScalarType) (format : Option String) :
    (type.fieldType format).named? = none := by
  unfold ScalarType.fieldType
  split <;> rfl

/-- **Where a walk ends, its shape says.** -/
theorem endsAt_walk (followed : List String) (shape : Shape) :
    EndsAt ctx followed shape (ctx.walk followed shape).stop := by
  induction followed, shape using CompileContext.walk.induct ctx with
  | case1 followed type format =>
    rw [walk]
    exact .unnamed (named?_fieldType type format)
  | case2 followed items ih =>
    rw [walk]
    exact ih.array
  | case3 followed values hempty =>
    rw [walk, if_pos hempty]
    exact .inlineEnum (List.isEmpty_iff.1 hempty) (.enumeration values)
  | case4 followed values hempty =>
    -- Behind an alias an enumeration is a text.
    rw [walk, if_neg hempty]
    exact .unnamed rfl
  | case5 followed target hnone =>
    rw [walk_reference_of_none hnone]
    exact .unnamed rfl
  | case6 followed target shape hsome hdeclared =>
    rw [walk_reference_of_isDeclared hsome hdeclared]
    cases howned : ctx.ownedName? target with
    | none => exact .unnamed rfl
    | some name => exact .declared (.declared hsome hdeclared) howned
  | case7 followed target shape hsome hdeclared hfollowed =>
    -- The aliases go round in a circle.
    rw [walk_reference_of_mem hsome hdeclared hfollowed]
    exact .unnamed rfl
  | case8 followed target shape hsome halias hfollowed _ ih =>
    -- One more alias is followed.
    rw [walk_reference_of_not_mem hsome halias hfollowed]
    exact ih.through hsome halias
  | case9 followed shape hprimitive harray henumeration hreference =>
    rw [walk]
    · exact .unnamed rfl
    all_goals assumption

theorem exists_leadsTo_of_walk {type : FieldType}
    (hstop : (ctx.walk followed shape).stop = .type type) {name : String}
    (hname : type.named? = some name) :
    ∃ schema, ctx.LeadsTo shape schema ∧ ctx.ownedName? schema = some name := by
  have hends := ctx.endsAt_walk followed shape
  rw [hstop] at hends
  cases hends with
  | unnamed h => exact nomatch h.symm.trans hname
  | declared hleads howned =>
    cases hname
    exact ⟨_, hleads, howned⟩

/-- **The walk from a property ends at an enumeration in line if its shape holds one.** -/
theorem stop_walk_eq_inlineEnum_iff {values : List String} :
    (ctx.walk [] shape).stop = .inlineEnum values ↔ shape.HoldsInline values := by
  constructor
  · intro hstop
    have hends := ctx.endsAt_walk [] shape
    rw [hstop] at hends
    cases hends with
    | inlineEnum _ hinline => exact hinline
  · intro hinline
    induction hinline with
    | enumeration values =>
      rw [walk]
      rfl
    | array _ ih =>
      rw [walk]
      exact ih

end CompileContext

end ApiModels
