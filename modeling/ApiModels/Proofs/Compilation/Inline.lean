import ApiModels.Compilation.Basic
import Mathlib.Data.List.Nodup

/-!
# Enumerations that are written in line

The compilation of records keeps a list of the names that are taken, and an enumeration in line
whose name is taken is not declared. Two statements lead around this list.

* Whatever is declared is new: the names stay distinct through the whole run
  (`fresh_recordsAndInline`).
* Where all names are free, no property depends on another one, and each record and its enumerations
  follow from its owner alone (`recordsAndInline_of_free`).
-/

namespace ApiModels

/-- The properties from which the record of an owner is made. -/
def Owner.sources (owner : Owner) : List (PropertyShape Shape) :=
  match owner.shape.role with
  | .record sources => sources
  | _ => []

theorem Owner.sources_of_role {owner : Owner} {sources : List (PropertyShape Shape)}
    (h : owner.shape.role = .record sources) : owner.sources = sources := by
  rw [Owner.sources, h]

namespace InlineEnums

/-- The enumerations in line with more of them. -/
def add (inline : InlineEnums) (enums : List EnumType) : InlineEnums :=
  ⟨(enums.map (·.name)).reverse ++ inline.taken, inline.enums ++ enums⟩

theorem add_nil (inline : InlineEnums) : inline.add [] = inline := by
  simp [add]

theorem add_add (inline : InlineEnums) (a b : List EnumType) :
    (inline.add a).add b = inline.add (a ++ b) := by
  simp [add]

/-- The names of more enumerations are distinct and not taken. -/
def IsFree (inline : InlineEnums) (enums : List EnumType) : Prop :=
  (enums.map (·.name) ++ inline.taken).Nodup

theorem IsFree.append {inline : InlineEnums} {a b : List EnumType} (h : inline.IsFree (a ++ b)) :
    inline.IsFree a ∧ (inline.add a).IsFree b := by
  unfold IsFree at *
  rw [List.map_append, List.append_assoc] at h
  have hperm : (a.map (·.name) ++ (b.map (·.name) ++ inline.taken)).Perm
      (b.map (·.name) ++ (a.map (·.name) ++ inline.taken)) := by
    rw [← List.append_assoc, ← List.append_assoc]
    exact List.perm_append_comm.append_right _
  refine ⟨?_, ?_⟩
  · exact h.sublist ((List.Sublist.refl _).append (List.sublist_append_right _ _))
  · have hreverse : (b.map (·.name) ++ (a.map (·.name) ++ inline.taken)).Perm
        (b.map (·.name) ++ ((a.map (·.name)).reverse ++ inline.taken)) :=
      ((List.reverse_perm _).symm.append_right _).append_left _
    exact hreverse.nodup_iff.1 (hperm.nodup_iff.1 h)

/-- The names that are taken are those at the start and those of the enumerations, all distinct. -/
structure Fresh (start : List String) (inline : InlineEnums) : Prop where
  taken : inline.taken = (inline.enums.map (·.name)).reverse ++ start
  nodup : inline.taken.Nodup

theorem Fresh.add {start : List String} {inline : InlineEnums} (h : inline.Fresh start)
    {e : EnumType} (he : e.name ∉ inline.taken) : (inline.add [e]).Fresh start := by
  refine ⟨?_, List.nodup_cons.2 ⟨he, h.nodup⟩⟩
  simp [InlineEnums.add, h.taken]

end InlineEnums

namespace CompileContext

variable (ctx : CompileContext)

/-! ### What an owner declares -/

/-- The enumeration that is written in line in a property. -/
def inlineEnum? (owner : Owner) (property : PropertyShape Shape) : Option EnumType :=
  match (ctx.walk [] property.shape).stop with
  | .type _ => none
  | .inlineEnum values => some
    { name := inlineName owner.typeName property.name
      sourceName := some (owner.schema ++ "." ++ property.name)
      description := none
      cases := ctx.enumCases values }

/-- The type of a property whose enumeration in line, if it has one, is declared. -/
def declaredType (owner : Owner) (property : PropertyShape Shape) : FieldType :=
  let walk := ctx.walk [] property.shape
  match walk.stop with
  | .type type => .inSequences walk.arrays type
  | .inlineEnum _ => .inSequences walk.arrays (.named (inlineName owner.typeName property.name))

/-- The enumerations that are written in line in the properties of an owner. -/
def inlineEnums (owner : Owner) : List EnumType := owner.sources.filterMap (ctx.inlineEnum? owner)

/-- The names of the enumerations that are written in line. -/
def inlineNames (owner : Owner) : List String := (ctx.inlineEnums owner).map (·.name)

/-- The record of an owner with the given types of its properties. -/
def recordOf (owner : Owner) (sources : List (PropertyShape Shape)) (types : List FieldType) :
    RecordType :=
  { name := owner.typeName
    sourceName := some owner.schema
    description := ctx.description owner.schema
    properties := ctx.properties sources types
    isEquatable := !types.any FieldType.hasPlaceholder }

/-- The record of an owner whose enumerations in line are declared. -/
def record? (owner : Owner) : Option RecordType :=
  match owner.shape.role with
  | .record sources => some (ctx.recordOf owner sources (sources.map (ctx.declaredType owner)))
  | _ => none

/-- The names of the owners and of their enumerations in line are distinct. -/
def HasDistinctNames : Prop :=
  (ctx.owners.flatMap ctx.inlineNames ++ ctx.owners.map (·.typeName)).Nodup

/-- No enumeration in line was left undeclared for its name. -/
def DeclaresInline : Prop :=
  ctx.recordsAndInline.2.enums.map (·.name) = ctx.owners.flatMap ctx.inlineNames

/-! ### What is declared is new -/

section Fresh

variable {start : List String} {inline : InlineEnums}

theorem fresh_settle (owner : Owner) (property : String) (walk : Walk) (h : inline.Fresh start) :
    (ctx.settle owner property inline walk).2.Fresh start := by
  unfold settle
  split
  · exact h
  · next values _ =>
    by_cases htaken : inline.taken.contains (inlineName owner.typeName property) = true
    · simp only [htaken, if_true]
      exact h
    · simp only [htaken, Bool.false_eq_true, if_false]
      refine h.add (e := ⟨inlineName owner.typeName property,
        some (owner.schema ++ "." ++ property), none, ctx.enumCases values⟩) ?_
      rwa [List.contains_iff_mem] at htaken

theorem fresh_fieldTypes (owner : Owner) (properties : List (PropertyShape Shape))
    (h : inline.Fresh start) : (ctx.fieldTypes owner inline properties).2.Fresh start := by
  induction properties generalizing inline with
  | nil => exact h
  | cons property properties ih =>
    have hfirst := ctx.fresh_settle owner property.name (ctx.walk [] property.shape) h
    exact ih hfirst

theorem fresh_compileRecords (owners : List Owner) (h : inline.Fresh start) :
    (ctx.compileRecords inline owners).2.Fresh start := by
  induction owners generalizing inline with
  | nil => exact h
  | cons owner owners ih =>
    unfold compileRecords
    split
    · next sources hrole =>
      have hfirst := ctx.fresh_fieldTypes owner sources h
      exact ih hfirst
    · exact ih h

end Fresh

/-- **The names of all that is declared are distinct**, if those of the owners are. -/
theorem fresh_recordsAndInline (h : (ctx.owners.map (·.typeName)).Nodup) :
    ctx.recordsAndInline.2.Fresh (ctx.owners.map (·.typeName)) :=
  ctx.fresh_compileRecords ctx.owners ⟨rfl, h⟩

/-! ### Runs in which all names are free -/

section Free

variable {inline : InlineEnums}

theorem settle_of_free {owner : Owner} {property : PropertyShape Shape}
    (h : inline.IsFree (ctx.inlineEnum? owner property).toList) :
    ctx.settle owner property.name inline (ctx.walk [] property.shape) =
      (ctx.declaredType owner property, inline.add (ctx.inlineEnum? owner property).toList) := by
  unfold inlineEnum? at *
  unfold settle declaredType
  cases hstop : (ctx.walk [] property.shape).stop with
  | type type =>
    simp only [hstop, Option.toList_none, InlineEnums.add_nil]
  | inlineEnum values =>
    have hnew : inline.taken.contains (inlineName owner.typeName property.name) = false := by
      rw [hstop] at h
      have hnot := (List.nodup_cons.1 h).1
      rw [← Bool.not_eq_true, List.contains_iff_mem]
      exact hnot
    simp only [hstop, hnew, Bool.false_eq_true, if_false, Option.toList_some]
    rfl

theorem fieldTypes_of_free {owner : Owner} {properties : List (PropertyShape Shape)}
    (h : inline.IsFree (properties.filterMap (ctx.inlineEnum? owner))) :
    ctx.fieldTypes owner inline properties = (properties.map (ctx.declaredType owner),
      inline.add (properties.filterMap (ctx.inlineEnum? owner))) := by
  induction properties generalizing inline with
  | nil => simp [fieldTypes, InlineEnums.add_nil]
  | cons property properties ih =>
    have hcons : (property :: properties).filterMap (ctx.inlineEnum? owner) =
        (ctx.inlineEnum? owner property).toList ++
          properties.filterMap (ctx.inlineEnum? owner) := by
      rw [List.filterMap_cons]
      cases ctx.inlineEnum? owner property <;> rfl
    rw [hcons] at h
    obtain ⟨hfirst, hrest⟩ := h.append
    simp only [fieldTypes, ctx.settle_of_free hfirst, ih hrest, hcons, List.map_cons,
      InlineEnums.add_add]

theorem compileRecords_of_free {owners : List Owner}
    (h : inline.IsFree (owners.flatMap ctx.inlineEnums)) :
    ctx.compileRecords inline owners =
      (owners.filterMap ctx.record?, inline.add (owners.flatMap ctx.inlineEnums)) := by
  induction owners generalizing inline with
  | nil => simp [compileRecords, InlineEnums.add_nil]
  | cons owner owners ih =>
    rw [List.flatMap_cons] at h
    obtain ⟨hfirst, hrest⟩ := h.append
    have hrecords := ih hrest
    rw [List.filterMap_cons, List.flatMap_cons, ← InlineEnums.add_add]
    unfold compileRecords record?
    cases hrole : owner.shape.role with
    | record sources =>
      have hsources := Owner.sources_of_role hrole
      unfold inlineEnums at hfirst hrecords ⊢
      rw [hsources] at hfirst hrecords ⊢
      simp only [compileRecord, ctx.fieldTypes_of_free hfirst, hrecords]
      rfl
    | _ =>
      -- An enumeration or an alias has no properties.
      have hnil : ctx.inlineEnums owner = [] := by
        rw [inlineEnums, Owner.sources, hrole]
        rfl
      rw [hnil, InlineEnums.add_nil] at hrecords ⊢
      exact hrecords

end Free

theorem recordsAndInline_of_free (h : ctx.HasDistinctNames) :
    ctx.recordsAndInline = (ctx.owners.filterMap ctx.record?,
      InlineEnums.add ⟨ctx.owners.map (·.typeName), []⟩ (ctx.owners.flatMap ctx.inlineEnums)) := by
  refine ctx.compileRecords_of_free ?_
  unfold InlineEnums.IsFree
  rw [List.map_flatMap]
  exact h

theorem hasDistinctNames (hnames : (ctx.owners.map (·.typeName)).Nodup)
    (hinline : ctx.DeclaresInline) : ctx.HasDistinctNames := by
  have hfresh := ctx.fresh_recordsAndInline hnames
  have hnodup := hfresh.nodup
  rw [hfresh.taken, hinline] at hnodup
  exact ((List.reverse_perm _).append_right _).nodup_iff.1 hnodup

theorem declaresInline_iff (hnames : (ctx.owners.map (·.typeName)).Nodup) :
    ctx.DeclaresInline ↔ ctx.HasDistinctNames := by
  constructor
  · exact ctx.hasDistinctNames hnames
  · intro h
    rw [DeclaresInline, ctx.recordsAndInline_of_free h, InlineEnums.add, List.nil_append,
      List.map_flatMap]
    rfl

end CompileContext

end ApiModels
