import ApiModels.Proofs.Compilation.Account
import Mathlib.Logic.Relation

/-!
# Following aliases

The type of a property is found by a walk over shapes. `CompileContext.Steps` is one step of it:
from an array to its items, or from a reference to the shape of an alias that was not followed
before. `CompileContext.StopsAt` says where it stops, and with what. No walk goes on for ever
(`wellFounded_steps`), every walk comes to a stop (`exists_stops`), and there is only one way to go
(`Stops.unique`), so what the compilation finds is what is at this stop (`walk_of_stops`).

Without the rule that an alias is followed once, a walk is a way through `CompileContext.Follows`. A
walk whose way comes into a circle can only stop at an alias that it has followed
(`stop_eq_placeholder`).

A property gets its type from the walk (`settle_isLoweredByWalk`), and all properties do, one after
the other (`ofDocument_isByWalks`).
-/

namespace ApiModels

/-- Where a walk stands: the schemas that it has followed, the number of arrays that it has passed,
and the shape that it has come to. -/
structure WalkState where
  followed : List String
  arrays : Nat
  shape : Shape

namespace CompileContext

variable (ctx : CompileContext)

/-- The schema has the shape and is not declared. -/
structure IsAlias (schema : String) (shape : Shape) : Prop where
  mem : (schema, shape) ∈ ctx.shapes
  notDeclared : ¬ shape.isDeclared = true

/-- The schema has the shape and is to be declared. -/
structure IsDeclaration (schema : String) (shape : Shape) : Prop where
  mem : (schema, shape) ∈ ctx.shapes
  declared : shape.isDeclared = true

/-- One step of a walk. -/
inductive Steps : WalkState → WalkState → Prop
  | items {followed : List String} {arrays : Nat} {items : Shape} :
    Steps ⟨followed, arrays, .array items⟩ ⟨followed, arrays + 1, items⟩
  | through {followed : List String} {arrays : Nat} {target : String} {shape : Shape}
    (halias : ctx.IsAlias target shape) (hnew : target ∉ followed) :
    Steps ⟨followed, arrays, .reference target⟩ ⟨target :: followed, arrays, shape⟩

/-- The walk stops, with what it has found. -/
inductive StopsAt : WalkState → WalkEnd → Prop
  | primitive {followed : List String} {arrays : Nat} {type : ScalarType} {format : Option String} :
    StopsAt ⟨followed, arrays, .primitive type format⟩ (.type (type.fieldType format))
  /-- A reference to a schema that owns its declaration. -/
  | declared {followed : List String} {arrays : Nat} {target : String} {shape : Shape}
    (htarget : ctx.IsDeclaration target shape) (howns : ¬ ctx.IsSkipped target) :
    StopsAt ⟨followed, arrays, .reference target⟩
      (.type (.named (ctx.settings.naming.typeName target)))
  /-- An enumeration in the property itself. -/
  | inlineEnum {arrays : Nat} {values : List String} :
    StopsAt ⟨[], arrays, .enumeration values⟩ (.inlineEnum values)
  /-- An enumeration behind a reference. -/
  | text {followed : List String} {arrays : Nat} {values : List String}
    (hfollowed : followed ≠ []) :
    StopsAt ⟨followed, arrays, .enumeration values⟩ (.type .text)
  | object {followed : List String} {arrays : Nat} {properties : List (PropertyShape Shape)} :
    StopsAt ⟨followed, arrays, .object properties⟩ (.type .placeholder)
  | union {followed : List String} {arrays : Nat} {alternatives : List Shape} :
    StopsAt ⟨followed, arrays, .union alternatives⟩ (.type .placeholder)
  | unknown {followed : List String} {arrays : Nat} {reason : String} :
    StopsAt ⟨followed, arrays, .unknown reason⟩ (.type .placeholder)
  /-- A reference to a schema of which another one has the type name. -/
  | skipped {followed : List String} {arrays : Nat} {target : String} {shape : Shape}
    (htarget : ctx.IsDeclaration target shape) (hskipped : ctx.IsSkipped target) :
    StopsAt ⟨followed, arrays, .reference target⟩ (.type .placeholder)
  /-- A reference to a name that is no schema. -/
  | missing {followed : List String} {arrays : Nat} {target : String}
    (hmissing : ∀ shape, (target, shape) ∉ ctx.shapes) :
    StopsAt ⟨followed, arrays, .reference target⟩ (.type .placeholder)
  /-- A reference to an alias that the walk has followed. -/
  | circle {followed : List String} {arrays : Nat} {target : String} {shape : Shape}
    (halias : ctx.IsAlias target shape) (hfollowed : target ∈ followed) :
    StopsAt ⟨followed, arrays, .reference target⟩ (.type .placeholder)

/-- The walk from the shape of a property leads to the last state and stops there. -/
structure Stops (shape : Shape) (last : WalkState) (stop : WalkEnd) : Prop where
  steps : Relation.ReflTransGen ctx.Steps ⟨[], 0, shape⟩ last
  stopsAt : ctx.StopsAt last stop

/-- A shape goes on to the next one, however often an alias has been followed. -/
inductive Follows : Shape → Shape → Prop
  | items {items : Shape} : Follows (.array items) items
  | through {target : String} {shape : Shape} (halias : ctx.IsAlias target shape) :
    Follows (.reference target) shape

/-- The schema is an alias that leads back to itself. -/
def IsCircular (schema : String) : Prop :=
  Relation.TransGen ctx.Follows (.reference schema) (.reference schema)

/-- What a property gets for what its walk has found: an enumeration in line is declared if its name
is free. -/
inductive Yields (owner : Owner) (source : PropertyShape Shape) (inline : InlineEnums) :
    WalkEnd → FieldType × InlineEnums → Prop
  | type {type : FieldType} : Yields owner source inline (.type type) (type, inline)
  | taken {values : List String} (htaken : inlineName owner.typeName source.name ∈ inline.taken) :
    Yields owner source inline (.inlineEnum values) (.text, inline)
  | declared {values : List String}
    (hfree : inlineName owner.typeName source.name ∉ inline.taken) :
    Yields owner source inline (.inlineEnum values)
      (.named (inlineName owner.typeName source.name),
        inline.add [ctx.enumOf owner source values])

/-- A property is lowered by the walk from its shape. -/
structure IsLoweredByWalk (owner : Owner) (source : PropertyShape Shape) (inline : InlineEnums)
    (lowered : FieldType × InlineEnums) : Prop where
  /-- What is at the stop, in as many sequences as arrays were passed. -/
  stops : ∃ last stop base, ctx.Stops source.shape last stop ∧
    ctx.Yields owner source inline stop (base, lowered.2) ∧
    lowered.1 = .inSequences last.arrays base
  /-- There is one stop only. -/
  unique : ∀ last last' stop stop', ctx.Stops source.shape last stop →
    ctx.Stops source.shape last' stop' → last = last' ∧ stop = stop'
  /-- Aliases in a circle give the placeholder. -/
  circle : ∀ schema, ctx.IsCircular schema →
    Relation.ReflTransGen ctx.Follows source.shape (.reference schema) →
    ∃ arrays, lowered = (.inSequences arrays .placeholder, inline)

/-- The properties of a record are lowered by walks, one after the other. -/
inductive FieldsByWalks (owner : Owner) :
    InlineEnums → List (PropertyShape Shape) → List FieldType × InlineEnums → Prop
  | nil {inline : InlineEnums} : FieldsByWalks owner inline [] ([], inline)
  | cons {inline next last : InlineEnums} {source : PropertyShape Shape}
    {sources : List (PropertyShape Shape)} {type : FieldType} {types : List FieldType}
    (hfirst : ctx.IsLoweredByWalk owner source inline (type, next))
    (hrest : FieldsByWalks owner next sources (types, last)) :
    FieldsByWalks owner inline (source :: sources) (type :: types, last)

/-- Records are compiled from properties that are lowered by walks, one after the other. -/
inductive RecordsByWalks :
    InlineEnums → List Owner → List RecordType × InlineEnums → Prop
  | nil {inline : InlineEnums} : RecordsByWalks inline [] ([], inline)
  | record {inline next last : InlineEnums} {owner : Owner} {owners : List Owner}
    {sources : List (PropertyShape Shape)} {types : List FieldType} {records : List RecordType}
    (hrole : owner.shape.role = .record sources)
    (hfields : ctx.FieldsByWalks owner inline sources (types, next))
    (hrest : RecordsByWalks next owners (records, last)) :
    RecordsByWalks inline (owner :: owners) (ctx.recordOf owner sources types :: records, last)
  | other {inline : InlineEnums} {owner : Owner} {owners : List Owner}
    {compiled : List RecordType × InlineEnums} (hrole : ¬ owner.isRecord = true)
    (hrest : RecordsByWalks inline owners compiled) :
    RecordsByWalks inline (owner :: owners) compiled

/-- A compilation finds the types of properties by walks. -/
structure IsByWalks : Prop where
  /-- No walk goes on for ever. -/
  terminates : WellFounded fun later earlier => ctx.Steps earlier later
  /-- Whatever was declared before, a property is lowered by its walk. -/
  property : ∀ owner source inline, ctx.IsLoweredByWalk owner source inline
    (ctx.settle owner source.name inline (ctx.walk [] source.shape))
  /-- All records are compiled this way, after the type names of the schemas are taken. -/
  records : ctx.RecordsByWalks ⟨ctx.owners.map (·.typeName), []⟩ ctx.owners ctx.recordsAndInline

variable {d : Document} {settings : Settings}

/-! ### What a context knows about a schema -/

theorem lookup_shapes {schema : String} {shape : Shape}
    (h : (schema, shape) ∈ (ofDocument d settings).shapes) :
    (ofDocument d settings).shapes.lookup schema = some shape :=
  (lookup_eq_some_iff_mem (ascending_shapes d settings).nodup_keys).2 h

theorem lookup_shapes_eq_none {schema : String}
    (h : ∀ shape, (schema, shape) ∉ (ofDocument d settings).shapes) :
    (ofDocument d settings).shapes.lookup schema = none :=
  Option.eq_none_iff_forall_ne_some.2 fun shape hlookup => h shape (Json.mem_of_lookup hlookup)

theorem IsAlias.not_isDeclaration {schema : String} {shape other : Shape}
    (h : (ofDocument d settings).IsAlias schema shape) :
    ¬ (ofDocument d settings).IsDeclaration schema other := by
  intro h'
  cases shape_unique d settings h.mem h'.mem
  exact h.notDeclared h'.declared

theorem ownedName?_of_not_isSkipped {schema : String} {shape : Shape}
    (h : (ofDocument d settings).IsDeclaration schema shape)
    (howns : ¬ (ofDocument d settings).IsSkipped schema) :
    (ofDocument d settings).ownedName? schema = some (settings.naming.typeName schema) := by
  have howner := mem_owners_of_not_isSkipped d settings h.mem h.declared howns
  cases hname : (ofDocument d settings).ownedName? schema with
  | none =>
    have hnone := List.find?_eq_none.1 (Option.map_eq_none_iff.1 hname) _ howner
    exact absurd (beq_self_eq_true schema) hnone
  | some name =>
    obtain ⟨owner, hmem, rfl, rfl⟩ := mem_owners_schema hname
    rw [((mem_owners d settings).1 hmem).2.2.1]

theorem ownedName?_of_isSkipped {schema : String} (h : (ofDocument d settings).IsSkipped schema) :
    (ofDocument d settings).ownedName? schema = none := by
  refine Option.eq_none_iff_forall_ne_some.2 fun name hname => ?_
  obtain ⟨owner, hmem, rfl, -⟩ := mem_owners_schema hname
  obtain ⟨earlier, shape, hearlier, hdeclared, hlt, hsame⟩ := h
  obtain ⟨-, -, htype, hleast⟩ := (mem_owners d settings).1 hmem
  have hle : owner.schema ≤ earlier :=
    hleast (earlier, shape) hearlier hdeclared (hsame.trans htype.symm)
  exact String.not_lt.2 hle hlt

/-! ### Walks end -/

/-- Each step follows one more schema, or comes to a smaller shape. -/
theorem wellFounded_steps (d : Document) (settings : Settings) :
    WellFounded fun later earlier => (ofDocument d settings).Steps earlier later := by
  have hmeasure := (Prod.lex Nat.lt_wfRel Nat.lt_wfRel).wf
  refine Subrelation.wf (fun {later earlier} h => ?_)
    (InvImage.wf (fun s : WalkState =>
      (((ofDocument d settings).unfollowed s.followed).length, sizeOf s.shape)) hmeasure)
  cases h with
  | items =>
    refine Prod.Lex.right _ (show sizeOf _ < sizeOf (Shape.array _) from ?_)
    rw [Shape.array.sizeOf_spec]
    exact Nat.lt_add_of_pos_left Nat.one_pos
  | through halias hnew =>
    exact Prod.Lex.left _ _ (length_unfollowed_cons_lt _ (lookup_shapes halias.mem) hnew)

theorem exists_steps_or_stopsAt (s : WalkState) :
    (∃ next, (ofDocument d settings).Steps s next) ∨
      ∃ stop, (ofDocument d settings).StopsAt s stop := by
  obtain ⟨followed, arrays, shape⟩ := s
  cases shape with
  | primitive => exact .inr ⟨_, .primitive⟩
  | array => exact .inl ⟨_, .items⟩
  | enumeration =>
    by_cases hfollowed : followed = []
    · subst hfollowed
      exact .inr ⟨_, .inlineEnum⟩
    · exact .inr ⟨_, .text hfollowed⟩
  | object => exact .inr ⟨_, .object⟩
  | union => exact .inr ⟨_, .union⟩
  | unknown => exact .inr ⟨_, .unknown⟩
  | reference target =>
    by_cases hmissing : ∀ shape, (target, shape) ∉ (ofDocument d settings).shapes
    · exact .inr ⟨_, .missing hmissing⟩
    obtain ⟨shape, hmem⟩ := not_forall_not.1 hmissing
    by_cases hdeclared : shape.isDeclared = true
    · by_cases hskipped : (ofDocument d settings).IsSkipped target
      · exact .inr ⟨_, .skipped ⟨hmem, hdeclared⟩ hskipped⟩
      · exact .inr ⟨_, .declared ⟨hmem, hdeclared⟩ hskipped⟩
    · by_cases hfollowed : target ∈ followed
      · exact .inr ⟨_, .circle ⟨hmem, hdeclared⟩ hfollowed⟩
      · exact .inl ⟨_, .through ⟨hmem, hdeclared⟩ hfollowed⟩

/-- **Every walk comes to a stop.** -/
theorem exists_stops (s : WalkState) :
    ∃ last stop, Relation.ReflTransGen (ofDocument d settings).Steps s last ∧
      (ofDocument d settings).StopsAt last stop := by
  induction s using (wellFounded_steps d settings).induction with
  | _ s ih =>
    rcases exists_steps_or_stopsAt s with ⟨next, hstep⟩ | ⟨stop, hstop⟩
    · obtain ⟨last, stop, hsteps, hstop⟩ := ih next hstep
      exact ⟨last, stop, .head hstep hsteps, hstop⟩
    · exact ⟨s, stop, .refl, hstop⟩

/-! ### What is computed is what is at the stop -/

/-- The walk that goes on from a state. -/
def walkFrom (ctx : CompileContext) (s : WalkState) : Walk :=
  let rest := ctx.walk s.followed s.shape
  { rest with arrays := s.arrays + rest.arrays }

/-- A step changes nothing about where the walk leads. -/
theorem Steps.walkFrom {s next : WalkState} (h : (ofDocument d settings).Steps s next) :
    (ofDocument d settings).walkFrom next = (ofDocument d settings).walkFrom s := by
  cases h with
  | items =>
    simp only [CompileContext.walkFrom, walk]
    congr 1
    omega
  | through halias hnew =>
    have hlookup := lookup_shapes halias.mem
    simp only [CompileContext.walkFrom, walk_reference_of_not_mem hlookup halias.notDeclared hnew]

theorem StopsAt.walkFrom {s : WalkState} {stop : WalkEnd}
    (h : (ofDocument d settings).StopsAt s stop) :
    (ofDocument d settings).walkFrom s = ⟨s.arrays, stop⟩ := by
  unfold CompileContext.walkFrom
  cases h with
  | declared htarget howns =>
    rw [walk_reference_of_isDeclared (lookup_shapes htarget.mem) htarget.declared,
      ownedName?_of_not_isSkipped htarget howns]
    rfl
  | skipped htarget hskipped =>
    rw [walk_reference_of_isDeclared (lookup_shapes htarget.mem) htarget.declared,
      ownedName?_of_isSkipped hskipped]
    rfl
  | missing hmissing =>
    rw [walk_reference_of_none (lookup_shapes_eq_none hmissing)]
    rfl
  | circle halias hfollowed =>
    rw [walk_reference_of_mem (lookup_shapes halias.mem) halias.notDeclared hfollowed]
    rfl
  | text hfollowed =>
    rw [walk, if_neg fun hempty => hfollowed (List.isEmpty_iff.1 hempty)]
    rfl
  | _ =>
    rw [walk] <;> simp [Walk.at]

/-- **What is computed is what is at the stop**, with the arrays on the way to it. -/
theorem walk_of_stops {shape : Shape} {last : WalkState} {stop : WalkEnd}
    (h : (ofDocument d settings).Stops shape last stop) :
    (ofDocument d settings).walk [] shape = ⟨last.arrays, stop⟩ := by
  have hstart : (ofDocument d settings).walkFrom ⟨[], 0, shape⟩ =
      (ofDocument d settings).walk [] shape := by
    simp only [walkFrom, Nat.zero_add]
  have hsteps : (ofDocument d settings).walkFrom last =
      (ofDocument d settings).walkFrom ⟨[], 0, shape⟩ := by
    obtain ⟨hsteps, -⟩ := h
    induction hsteps with
    | refl => rfl
    | tail _ hstep ih => exact hstep.walkFrom.trans ih
  rw [← hstart, ← hsteps, h.stopsAt.walkFrom]

/-! ### There is one way only -/

theorem Steps.unique {s next next' : WalkState} (h : (ofDocument d settings).Steps s next)
    (h' : (ofDocument d settings).Steps s next') : next = next' := by
  cases h with
  | items =>
    cases h'
    rfl
  | through halias =>
    cases h' with
    | through halias' => rw [shape_unique d settings halias.mem halias'.mem]

theorem StopsAt.not_steps {s next : WalkState} {stop : WalkEnd}
    (h : (ofDocument d settings).StopsAt s stop) : ¬ (ofDocument d settings).Steps s next := by
  rintro (_ | ⟨halias, hnew⟩)
  · cases h
  · cases h with
    | declared htarget => exact halias.not_isDeclaration htarget
    | skipped htarget => exact halias.not_isDeclaration htarget
    | missing hmissing => exact hmissing _ halias.mem
    | circle _ hfollowed => exact hnew hfollowed

/-- **A walk stops in one place.** -/
theorem Stops.unique {shape : Shape} {last last' : WalkState} {stop stop' : WalkEnd}
    (h : (ofDocument d settings).Stops shape last stop)
    (h' : (ofDocument d settings).Stops shape last' stop') : last = last' ∧ stop = stop' := by
  have hstop : stop = stop' := congrArg Walk.stop ((walk_of_stops h).symm.trans (walk_of_stops h'))
  have hunique : Relator.RightUnique (ofDocument d settings).Steps := fun _ _ _ => Steps.unique
  -- Of two places on one way, one comes after the other, and from neither does a step lead on.
  rcases Relation.ReflTransGen.total_of_right_unique hunique h.steps h'.steps with hsteps | hsteps
  · exact ⟨(Relation.reflTransGen_iff_eq fun _ => h.stopsAt.not_steps).1 hsteps |>.symm, hstop⟩
  · exact ⟨(Relation.reflTransGen_iff_eq fun _ => h'.stopsAt.not_steps).1 hsteps, hstop⟩

/-! ### Circles -/

theorem Steps.follows {s next : WalkState} (h : (ofDocument d settings).Steps s next) :
    (ofDocument d settings).Follows s.shape next.shape := by
  cases h with
  | items => exact .items
  | through halias => exact .through halias

theorem Follows.unique {shape next next' : Shape} (h : (ofDocument d settings).Follows shape next)
    (h' : (ofDocument d settings).Follows shape next') : next = next' := by
  cases h with
  | items =>
    cases h'
    rfl
  | through halias =>
    cases h' with
    | through halias' => exact shape_unique d settings halias.mem halias'.mem

/-- A way that leads back to its start leads back from everywhere, if there is one way only. -/
theorem reflTransGen_symm_of_transGen {α : Type} {r : α → α → Prop} (hr : Relator.RightUnique r)
    {a b : α} (hcycle : Relation.TransGen r a a) (h : Relation.ReflTransGen r a b) :
    Relation.ReflTransGen r b a := by
  induction h with
  | refl => exact .refl
  | tail _ hstep ih =>
    obtain ⟨next, hnext, hrest⟩ := Relation.TransGen.head'_iff.1 (hcycle.trans_right ih)
    cases hr hstep hnext
    exact hrest

/-- From no place on a way into a circle does the way end. -/
theorem exists_follows_of_isCircular {shape last : Shape} {schema : String}
    (hcircular : (ofDocument d settings).IsCircular schema)
    (hcircle : Relation.ReflTransGen (ofDocument d settings).Follows shape (.reference schema))
    (hlast : Relation.ReflTransGen (ofDocument d settings).Follows shape last) :
    ∃ next, (ofDocument d settings).Follows last next := by
  have hunique : Relator.RightUnique (ofDocument d settings).Follows := fun _ _ _ => Follows.unique
  have hback : Relation.ReflTransGen (ofDocument d settings).Follows last (.reference schema) := by
    rcases Relation.ReflTransGen.total_of_right_unique hunique hcircle hlast with hafter | hbefore
    · exact reflTransGen_symm_of_transGen hunique hcircular hafter
    · exact hbefore
  obtain ⟨next, hnext, -⟩ := Relation.TransGen.head'_iff.1 (hcircular.trans_right hback)
  exact ⟨next, hnext⟩

/-- **A walk into a circle of aliases stops at the placeholder.** -/
theorem stop_eq_placeholder {shape : Shape} {schema : String} {last : WalkState} {stop : WalkEnd}
    (hcircular : (ofDocument d settings).IsCircular schema)
    (hcircle : Relation.ReflTransGen (ofDocument d settings).Follows shape (.reference schema))
    (h : (ofDocument d settings).Stops shape last stop) : stop = .type .placeholder := by
  have hway := h.steps.lift WalkState.shape fun _ _ => Steps.follows
  obtain ⟨next, hnext⟩ := exists_follows_of_isCircular hcircular hcircle hway
  obtain ⟨-, hstop⟩ := h
  obtain ⟨followed, arrays, lastShape⟩ := last
  cases hnext with
  | items => cases hstop
  | through halias =>
    cases hstop with
    | declared htarget => exact absurd htarget halias.not_isDeclaration
    | skipped | missing | circle => rfl

/-- Two aliases in a circle that passes through an array. -/
def circleDocument : Document where
  members := [
    ("components", .object [("schemas", .object [
      ("Left", .object [
        ("items", .object [("$ref", .text "#/components/schemas/Right")]),
        ("type", .text "array")]),
      ("Right", .object [("$ref", .text "#/components/schemas/Left")])])])]
  sorted := by decide +kernel
  sections := by decide +kernel

example : (ofDocument circleDocument .default).IsCircular "Left" := by
  have hleft : (ofDocument circleDocument .default).IsAlias "Left" (.array (.reference "Right")) :=
    ⟨by decide +kernel, by decide⟩
  have hright : (ofDocument circleDocument .default).IsAlias "Right" (.reference "Left") :=
    ⟨by decide +kernel, by decide⟩
  exact .head (.through hleft) (.head .items (.single (.through hright)))

/-! ### Properties and records -/

theorem exists_yields (ctx : CompileContext) (owner : Owner) (source : PropertyShape Shape)
    (inline : InlineEnums) (walk : Walk) :
    ∃ base, ctx.Yields owner source inline walk.stop
        (base, (ctx.settle owner source.name inline walk).2) ∧
      (ctx.settle owner source.name inline walk).1 = .inSequences walk.arrays base := by
  obtain ⟨arrays, stop⟩ := walk
  cases stop with
  | type type => exact ⟨type, .type, rfl⟩
  | inlineEnum values =>
    by_cases htaken : inlineName owner.typeName source.name ∈ inline.taken
    · have hcontains := List.contains_iff_mem.2 htaken
      refine ⟨.text, ?_, ?_⟩
      · simp only [settle, hcontains, if_true]
        exact .taken htaken
      · simp only [settle, hcontains, if_true]
    · have hcontains : ¬ inline.taken.contains (inlineName owner.typeName source.name) = true :=
        fun h => htaken (List.contains_iff_mem.1 h)
      refine ⟨.named (inlineName owner.typeName source.name), ?_, ?_⟩
      · simp only [settle, hcontains, Bool.false_eq_true, if_false]
        exact .declared htaken
      · simp only [settle, hcontains, Bool.false_eq_true, if_false]

/-- **A property gets its type from the walk from its shape.** -/
theorem settle_isLoweredByWalk (owner : Owner) (source : PropertyShape Shape)
    (inline : InlineEnums) :
    (ofDocument d settings).IsLoweredByWalk owner source inline
      ((ofDocument d settings).settle owner source.name inline
        ((ofDocument d settings).walk [] source.shape)) := by
  obtain ⟨last, stop, hsteps, hstop⟩ := @exists_stops d settings ⟨[], 0, source.shape⟩
  have hstops : (ofDocument d settings).Stops source.shape last stop := ⟨hsteps, hstop⟩
  obtain ⟨base, hyields, htype⟩ := (ofDocument d settings).exists_yields owner source inline
    ((ofDocument d settings).walk [] source.shape)
  have hwalk := walk_of_stops hstops
  constructor
  case stops =>
    rw [hwalk] at hyields htype ⊢
    exact ⟨last, stop, base, hstops, hyields, htype⟩
  case unique => exact fun _ _ _ _ => Stops.unique
  case circle =>
    intro schema hcircular hcircle
    cases stop_eq_placeholder hcircular hcircle hstops
    rw [hwalk]
    exact ⟨last.arrays, rfl⟩

theorem fieldTypes_byWalks (owner : Owner) (inline : InlineEnums)
    (sources : List (PropertyShape Shape)) :
    (ofDocument d settings).FieldsByWalks owner inline sources
      ((ofDocument d settings).fieldTypes owner inline sources) := by
  induction sources generalizing inline with
  | nil => exact .nil
  | cons source sources ih => exact .cons (settle_isLoweredByWalk owner source inline) (ih _)

theorem compileRecords_byWalks (inline : InlineEnums) (owners : List Owner) :
    (ofDocument d settings).RecordsByWalks inline owners
      ((ofDocument d settings).compileRecords inline owners) := by
  induction owners generalizing inline with
  | nil => exact .nil
  | cons owner owners ih =>
    unfold compileRecords
    split
    · next sources hrole =>
      exact .record hrole (fieldTypes_byWalks owner inline sources) (ih _)
    · next hrole =>
      refine .other (fun hrecord => ?_) (ih inline)
      obtain ⟨sources, hsources⟩ := Owner.isRecord_iff.1 hrecord
      exact hrole sources hsources

/-- **The types of all properties are found by walks that end.** -/
theorem ofDocument_isByWalks (d : Document) (settings : Settings) :
    (ofDocument d settings).IsByWalks where
  terminates := wellFounded_steps d settings
  property := settle_isLoweredByWalk
  records := compileRecords_byWalks _ _

end CompileContext

end ApiModels
