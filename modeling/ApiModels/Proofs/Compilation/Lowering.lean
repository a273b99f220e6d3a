import ApiModels.Proofs.Compilation.Equatable
import ApiModels.Proofs.Compilation.Inline
import ApiModels.Proofs.Compilation.Leading
import ApiModels.Proofs.Compilation.Names
import ApiModels.Proofs.Compilation.Owners

/-!
# The run of a compilation

Records are compiled one after the other, and with them the list of the names that are taken grows.
`lowerRecords` is this run with the types of the properties kept beside them; the compiled records
are written from it (`compileRecords_eq`).

Each property is lowered in one of three ways (`Lowers`), and this decides which enumeration it
declares (`declaredEnum?`). So the enumerations of a run are those that its properties declare, in
their order (`snd_lowerRecords`), and no two declarations have the same name
(`nodup_name_declarations`). Each lowered record stands beside the record that is written for it,
the mark of comparability apart (`forall₂_writes`).
-/

namespace ApiModels

/-- A property with the type to which it is lowered. -/
structure LoweredField where
  source : PropertyShape Shape
  type : FieldType

/-- A record whose properties have been lowered. -/
structure LoweredRecord where
  owner : Owner
  fields : List LoweredField

namespace LoweredRecord

/-- The properties before they are lowered. -/
def sources (r : LoweredRecord) : List (PropertyShape Shape) := r.fields.map (·.source)

/-- The types to which the properties are lowered. -/
def types (r : LoweredRecord) : List FieldType := r.fields.map (·.type)

end LoweredRecord

/-- The owner of a record. -/
def Owner.isRecord (owner : Owner) : Bool :=
  match owner.shape.role with
  | .record _ => true
  | _ => false

/-- The owner of an enumeration. -/
def Owner.isEnum (owner : Owner) : Bool :=
  match owner.shape.role with
  | .enum _ => true
  | _ => false

theorem Owner.isRecord_iff {owner : Owner} :
    owner.isRecord = true ↔ ∃ sources, owner.shape.role = .record sources := by
  unfold Owner.isRecord
  cases owner.shape.role <;> simp

namespace CompileContext

variable (ctx : CompileContext)

/-! ### Lowering a property -/

/-- The enumeration that a property holds in line, by its literals. -/
def enumOf (owner : Owner) (source : PropertyShape Shape) (values : List String) : EnumType where
  name := inlineName owner.typeName source.name
  sourceName := some (owner.schema ++ "." ++ source.name)
  description := none
  cases := ctx.enumCases values

/-- The enumeration that a property declares: the one in line, if its type names it. -/
def declaredEnum? (owner : Owner) (field : LoweredField) : Option EnumType :=
  (ctx.inlineEnum? owner field.source).filter fun e => field.type.named? == some e.name

/-- The ways in which a property is lowered: to the type at the end of its walk; and for an
enumeration in line to its name, or to a text. -/
inductive Lowers (owner : Owner) (source : PropertyShape Shape) : FieldType → Prop
  | type {type : FieldType} (hstop : (ctx.walk [] source.shape).stop = .type type) :
    Lowers owner source (.inSequences (ctx.walk [] source.shape).arrays type)
  | text {values : List String} (hstop : (ctx.walk [] source.shape).stop = .inlineEnum values) :
    Lowers owner source (.inSequences (ctx.walk [] source.shape).arrays .text)
  | inlineEnum {values : List String}
      (hstop : (ctx.walk [] source.shape).stop = .inlineEnum values) :
    Lowers owner source (.inSequences (ctx.walk [] source.shape).arrays
      (.named (inlineName owner.typeName source.name)))

variable {ctx} {owner : Owner} {source : PropertyShape Shape} {inline : InlineEnums}

theorem inlineEnum?_of_type {type : FieldType}
    (hstop : (ctx.walk [] source.shape).stop = .type type) :
    ctx.inlineEnum? owner source = none := by
  rw [inlineEnum?, hstop]

theorem inlineEnum?_of_inlineEnum {values : List String}
    (hstop : (ctx.walk [] source.shape).stop = .inlineEnum values) :
    ctx.inlineEnum? owner source = some (ctx.enumOf owner source values) := by
  rw [inlineEnum?, hstop]
  rfl

/-- A property declares the enumeration that its shape holds, if its type is built from it. -/
theorem declaredEnum?_eq_some_iff {field : LoweredField} {e : EnumType} :
    ctx.declaredEnum? owner field = some e ↔ field.type.named? = some e.name ∧
      ∃ values, field.source.shape.HoldsInline values ∧
        e = ctx.enumOf owner field.source values := by
  rw [declaredEnum?, Option.filter_eq_some_iff, beq_iff_eq, and_comm]
  refine and_congr_right fun _ => ?_
  cases hstop : (ctx.walk [] field.source.shape).stop with
  | type type =>
    rw [inlineEnum?_of_type hstop]
    constructor
    · rintro ⟨⟩
    · rintro ⟨values, hinline, -⟩
      exact nomatch hstop.symm.trans (stop_walk_eq_inlineEnum_iff.2 hinline)
  | inlineEnum values =>
    rw [inlineEnum?_of_inlineEnum hstop]
    constructor
    · rintro ⟨⟩
      exact ⟨values, stop_walk_eq_inlineEnum_iff.1 hstop, rfl⟩
    · rintro ⟨values', hinline, rfl⟩
      cases hstop.symm.trans (stop_walk_eq_inlineEnum_iff.2 hinline)
      rfl

/-- A declaration to which a property refers belongs to the schema to which its shape leads, or has
the name of the enumeration that the shape holds. -/
theorem Lowers.origin {type : FieldType} (h : ctx.Lowers owner source type) {name : String}
    (hname : type.named? = some name) :
    (∃ schema, ctx.LeadsTo source.shape schema ∧ ctx.ownedName? schema = some name) ∨
      ∃ values, source.shape.HoldsInline values ∧
        name = inlineName owner.typeName source.name := by
  cases h with
  | type hstop =>
    rw [FieldType.named?_inSequences] at hname
    exact .inl (exists_leadsTo_of_walk hstop hname)
  | text hstop =>
    rw [FieldType.named?_inSequences] at hname
    cases hname
  | inlineEnum hstop =>
    rw [FieldType.named?_inSequences] at hname
    cases hname
    exact .inr ⟨_, stop_walk_eq_inlineEnum_iff.1 hstop, rfl⟩

/-- **One property is lowered**, and the enumeration that it declares is added to the others. -/
theorem settle_spec (ctx : CompileContext) (owner : Owner) (source : PropertyShape Shape)
    (inline : InlineEnums) :
    ∃ type, ctx.Lowers owner source type ∧
      ctx.settle owner source.name inline (ctx.walk [] source.shape) =
        (type, inline.add (ctx.declaredEnum? owner ⟨source, type⟩).toList) := by
  cases hstop : (ctx.walk [] source.shape).stop with
  | type type =>
    refine ⟨_, .type hstop, ?_⟩
    simp [settle, hstop, declaredEnum?, inlineEnum?_of_type hstop, InlineEnums.add_nil]
  | inlineEnum values =>
    -- Where its name is taken, the enumeration becomes a text and is not declared.
    by_cases htaken : inline.taken.contains (inlineName owner.typeName source.name) = true
    · refine ⟨_, .text hstop, ?_⟩
      simp only [settle, hstop, htaken, if_true, declaredEnum?, inlineEnum?_of_inlineEnum hstop]
      simp [FieldType.named?, InlineEnums.add_nil]
    · refine ⟨_, .inlineEnum hstop, ?_⟩
      have hdeclared : ∀ arrays, ctx.declaredEnum? owner ⟨source, .inSequences arrays
          (.named (inlineName owner.typeName source.name))⟩ =
            some (ctx.enumOf owner source values) := by
        intro arrays
        rw [declaredEnum?_eq_some_iff, FieldType.named?_inSequences]
        exact ⟨rfl, values, stop_walk_eq_inlineEnum_iff.1 hstop, rfl⟩
      rw [settle, hstop, hdeclared]
      simp only [htaken, Bool.false_eq_true, if_false]
      rfl

/-! ### Lowering the properties of a record -/

variable (ctx)

/-- The properties of a record with their types, in their order. -/
def lowerFields (owner : Owner) (inline : InlineEnums) :
    List (PropertyShape Shape) → List LoweredField × InlineEnums
  | [] => ([], inline)
  | source :: sources =>
    let (type, inline) := ctx.settle owner source.name inline (ctx.walk [] source.shape)
    let (fields, inline) := lowerFields owner inline sources
    (⟨source, type⟩ :: fields, inline)

theorem fieldTypes_eq (owner : Owner) (inline : InlineEnums)
    (sources : List (PropertyShape Shape)) :
    ctx.fieldTypes owner inline sources =
      ((ctx.lowerFields owner inline sources).1.map (·.type),
        (ctx.lowerFields owner inline sources).2) := by
  induction sources generalizing inline with
  | nil => rfl
  | cons source sources ih => simp only [fieldTypes, lowerFields, ih, List.map_cons]

theorem source_lowerFields (owner : Owner) (inline : InlineEnums)
    (sources : List (PropertyShape Shape)) :
    (ctx.lowerFields owner inline sources).1.map (·.source) = sources := by
  induction sources generalizing inline with
  | nil => rfl
  | cons source sources ih => simp only [lowerFields, List.map_cons, ih]

variable {ctx}

/-- One property is lowered, whatever comes after it. -/
theorem exists_lowerFields_cons (ctx : CompileContext) (owner : Owner) (inline : InlineEnums)
    (source : PropertyShape Shape) :
    ∃ field : LoweredField, field.source = source ∧ ctx.Lowers owner field.source field.type ∧
      ∀ sources, ctx.lowerFields owner inline (source :: sources) =
        (field :: (ctx.lowerFields owner
            (inline.add (ctx.declaredEnum? owner field).toList) sources).1,
          (ctx.lowerFields owner (inline.add (ctx.declaredEnum? owner field).toList) sources).2) := by
  obtain ⟨type, hlowers, hsettle⟩ := ctx.settle_spec owner source inline
  exact ⟨⟨source, type⟩, rfl, hlowers, fun sources => by simp only [lowerFields, hsettle]⟩

theorem lowers_of_mem_lowerFields {sources : List (PropertyShape Shape)} {field : LoweredField}
    (h : field ∈ (ctx.lowerFields owner inline sources).1) :
    ctx.Lowers owner field.source field.type := by
  induction sources generalizing inline with
  | nil => cases h
  | cons source sources ih =>
    obtain ⟨first, -, hlowers, hcons⟩ := ctx.exists_lowerFields_cons owner inline source
    rw [hcons] at h
    rcases List.mem_cons.1 h with rfl | h
    · exact hlowers
    · exact ih h

theorem snd_lowerFields (sources : List (PropertyShape Shape)) :
    (ctx.lowerFields owner inline sources).2 = inline.add
      ((ctx.lowerFields owner inline sources).1.filterMap (ctx.declaredEnum? owner)) := by
  induction sources generalizing inline with
  | nil => exact inline.add_nil.symm
  | cons source sources ih =>
    obtain ⟨first, -, -, hcons⟩ := ctx.exists_lowerFields_cons owner inline source
    simp only [hcons, ih, InlineEnums.add_add]
    rw [List.filterMap_cons]
    cases ctx.declaredEnum? owner first <;> rfl

/-! ### Lowering all records -/

variable (ctx)

/-- The records of owners with the types of their properties, in their order. -/
def lowerRecords (inline : InlineEnums) : List Owner → List LoweredRecord × InlineEnums
  | [] => ([], inline)
  | owner :: owners =>
    match owner.shape.role with
    | .record sources =>
      let (fields, inline) := ctx.lowerFields owner inline sources
      let (records, inline) := lowerRecords inline owners
      (⟨owner, fields⟩ :: records, inline)
    | _ => lowerRecords inline owners

/-- The enumerations that the properties of a record declare. -/
def declaredEnums (record : LoweredRecord) : List EnumType :=
  record.fields.filterMap (ctx.declaredEnum? record.owner)

/-- The record that is written from a lowered one. -/
def recordFrom (record : LoweredRecord) : RecordType :=
  ctx.recordOf record.owner record.sources record.types

/-- The lowered records of a compilation. -/
def loweredRecords : List LoweredRecord :=
  (ctx.lowerRecords ⟨ctx.owners.map (·.typeName), []⟩ ctx.owners).1

variable {ctx}

theorem lowerRecords_cons_of_record {owners : List Owner}
    {sources : List (PropertyShape Shape)} (hrole : owner.shape.role = .record sources) :
    ctx.lowerRecords inline (owner :: owners) =
      (⟨owner, (ctx.lowerFields owner inline sources).1⟩ ::
          (ctx.lowerRecords (ctx.lowerFields owner inline sources).2 owners).1,
        (ctx.lowerRecords (ctx.lowerFields owner inline sources).2 owners).2) := by
  simp only [lowerRecords, hrole]

theorem lowerRecords_cons_of_not_record {owners : List Owner} (h : ¬ owner.isRecord = true) :
    ctx.lowerRecords inline (owner :: owners) = ctx.lowerRecords inline owners := by
  unfold Owner.isRecord at h
  cases hrole : owner.shape.role with
  | record sources =>
    rw [hrole] at h
    exact absurd rfl h
  | _ => simp only [lowerRecords, hrole]

variable (ctx)

/-- **Records are compiled by lowering them.** -/
theorem compileRecords_eq (inline : InlineEnums) (owners : List Owner) :
    ctx.compileRecords inline owners =
      ((ctx.lowerRecords inline owners).1.map ctx.recordFrom,
        (ctx.lowerRecords inline owners).2) := by
  induction owners generalizing inline with
  | nil => rfl
  | cons owner owners ih =>
    cases hrole : owner.shape.role with
    | record sources =>
      have hsources := ctx.source_lowerFields owner inline sources
      simp only [lowerRecords_cons_of_record hrole, compileRecords, hrole, compileRecord,
        ctx.fieldTypes_eq, ih, List.map_cons, recordFrom, LoweredRecord.sources, hsources]
      rfl
    | _ => simp only [compileRecords, lowerRecords, hrole, ih]

theorem snd_lowerRecords (inline : InlineEnums) (owners : List Owner) :
    (ctx.lowerRecords inline owners).2 = inline.add
      ((ctx.lowerRecords inline owners).1.flatMap ctx.declaredEnums) := by
  induction owners generalizing inline with
  | nil => exact inline.add_nil.symm
  | cons owner owners ih =>
    by_cases hrecord : owner.isRecord = true
    · obtain ⟨sources, hrole⟩ := Owner.isRecord_iff.1 hrecord
      have hfields : (ctx.lowerFields owner inline sources).2 = _ := snd_lowerFields sources
      rw [lowerRecords_cons_of_record hrole, List.flatMap_cons, ← InlineEnums.add_add, ih,
        declaredEnums, ← hfields]
    · rw [lowerRecords_cons_of_not_record hrecord, ih]

theorem owner_lowerRecords (inline : InlineEnums) (owners : List Owner) :
    (ctx.lowerRecords inline owners).1.map (·.owner) = owners.filter Owner.isRecord := by
  induction owners generalizing inline with
  | nil => rfl
  | cons owner owners ih =>
    by_cases hrecord : owner.isRecord = true
    · obtain ⟨sources, hrole⟩ := Owner.isRecord_iff.1 hrecord
      rw [lowerRecords_cons_of_record hrole, List.map_cons, ih, List.filter_cons_of_pos hrecord]
    · rw [lowerRecords_cons_of_not_record hrecord, ih, List.filter_cons_of_neg hrecord]

variable {ctx}

theorem of_mem_lowerRecords {owners : List Owner} {record : LoweredRecord}
    (h : record ∈ (ctx.lowerRecords inline owners).1) :
    record.owner ∈ owners ∧ record.owner.shape.role = .record record.sources ∧
      ∀ field ∈ record.fields, ctx.Lowers record.owner field.source field.type := by
  induction owners generalizing inline with
  | nil => cases h
  | cons owner owners ih =>
    by_cases hrecord : owner.isRecord = true
    · obtain ⟨sources, hrole⟩ := Owner.isRecord_iff.1 hrecord
      rw [lowerRecords_cons_of_record hrole] at h
      rcases List.mem_cons.1 h with rfl | h
      · refine ⟨List.mem_cons_self, ?_, fun field hfield => lowers_of_mem_lowerFields hfield⟩
        rw [LoweredRecord.sources, ctx.source_lowerFields]
        exact hrole
      · exact (ih h).imp_left (List.mem_cons_of_mem _)
    · rw [lowerRecords_cons_of_not_record hrecord] at h
      exact (ih h).imp_left (List.mem_cons_of_mem _)

/-! ### The declarations of a compilation -/

theorem of_mem_loweredRecords {record : LoweredRecord} (h : record ∈ ctx.loweredRecords) :
    record.owner ∈ ctx.owners ∧ record.owner.shape.role = .record record.sources ∧
      ∀ field ∈ record.fields, ctx.Lowers record.owner field.source field.type :=
  of_mem_lowerRecords h

variable (ctx)

theorem owner_loweredRecords :
    ctx.loweredRecords.map (·.owner) = ctx.owners.filter Owner.isRecord :=
  ctx.owner_lowerRecords _ _

/-- The properties of all records, each with its record. -/
def fields : List (LoweredRecord × LoweredField) :=
  ctx.loweredRecords.flatMap fun record => record.fields.map (record, ·)

theorem mem_fields {p : LoweredRecord × LoweredField} :
    p ∈ ctx.fields ↔ p.1 ∈ ctx.loweredRecords ∧ p.2 ∈ p.1.fields := by
  unfold fields
  rw [List.mem_flatMap]
  constructor
  · rintro ⟨record, hrecord, hp⟩
    obtain ⟨field, hfield, rfl⟩ := List.mem_map.1 hp
    exact ⟨hrecord, hfield⟩
  · rintro ⟨hrecord, hfield⟩
    exact ⟨p.1, hrecord, List.mem_map.2 ⟨p.2, hfield, rfl⟩⟩

theorem filterMap_declaredEnum?_fields :
    ctx.fields.filterMap (fun p => ctx.declaredEnum? p.1.owner p.2) =
      ctx.loweredRecords.flatMap ctx.declaredEnums := by
  unfold fields
  rw [List.filterMap_flatMap]
  congr 1
  funext record
  rw [List.filterMap_map]
  rfl

theorem recordsAndInline_eq : ctx.recordsAndInline = (ctx.loweredRecords.map ctx.recordFrom,
    InlineEnums.add ⟨ctx.owners.map (·.typeName), []⟩
      (ctx.loweredRecords.flatMap ctx.declaredEnums)) := by
  unfold recordsAndInline
  rw [compileRecords_eq, snd_lowerRecords]
  rfl

/-- **The declarations: the enumerations of the schemas, those that properties declare, and the
records.** -/
theorem declarations_eq : ctx.declarations = ctx.schemaEnums.map .enum ++
    (ctx.loweredRecords.flatMap ctx.declaredEnums).map .enum ++
    (propagateEquatable (ctx.loweredRecords.map ctx.recordFrom)).map .record := by
  unfold declarations
  rw [recordsAndInline_eq]
  rfl

theorem filterMap_record?_declarations : ctx.declarations.filterMap Declaration.record? =
    propagateEquatable (ctx.loweredRecords.map ctx.recordFrom) := by
  have henums : ∀ enums : List EnumType,
      (enums.map Declaration.enum).filterMap Declaration.record? = [] := by
    intro enums
    rw [List.filterMap_eq_nil_iff]
    intro d hd
    obtain ⟨e, -, rfl⟩ := List.mem_map.1 hd
    rfl
  have hrecords : Declaration.record? ∘ Declaration.record = some := rfl
  rw [declarations_eq, List.filterMap_append, List.filterMap_append, henums, henums,
    List.filterMap_map, hrecords, List.filterMap_some]
  rfl

/-- The records that are declared have the names and the properties of those that are written. -/
theorem exists_record_mem_declarations_iff {name : String} {properties : List Property} :
    (∃ r, .record r ∈ ctx.declarations ∧ r.name = name ∧ r.properties = properties) ↔
      ∃ record ∈ ctx.loweredRecords,
        record.owner.typeName = name ∧ (ctx.recordFrom record).properties = properties := by
  have hmem : ∀ r, .record r ∈ ctx.declarations ↔
      r ∈ propagateEquatable (ctx.loweredRecords.map ctx.recordFrom) := by
    intro r
    rw [← filterMap_record?_declarations, List.mem_filterMap]
    constructor
    · exact fun hr => ⟨_, hr, rfl⟩
    · rintro ⟨d, hd, hrecord⟩
      cases d with
      | enum e => cases hrecord
      | record s =>
        cases hrecord
        exact hd
  have hpairs := map_propagateEquatable (f := fun r => (r.name, r.properties))
    (fun names r => by rw [r.name_spoiledBy, r.properties_spoiledBy])
    (ctx.loweredRecords.map ctx.recordFrom)
  rw [List.map_map] at hpairs
  have hpair := iff_of_eq (congrArg ((name, properties) ∈ ·) hpairs)
  simp only [List.mem_map, Function.comp_apply, Prod.mk.injEq] at hpair
  simp only [hmem]
  exact hpair

/-- The record is the one that is written from the lowered one, whatever its mark. -/
def Writes (record : LoweredRecord) (r : RecordType) : Prop :=
  r = (ctx.recordFrom record).marked r.isEquatable

theorem forall₂_writes : List.Forall₂ ctx.Writes ctx.loweredRecords
    (ctx.declarations.filterMap Declaration.record?) := by
  have hmarked := forall₂_marked_propagateEquatable (ctx.loweredRecords.map ctx.recordFrom)
  rw [List.forall₂_map_left_iff] at hmarked
  rw [filterMap_record?_declarations]
  exact hmarked

theorem nodup_declared (h : (ctx.owners.map (·.typeName)).Nodup) :
    ((ctx.loweredRecords.flatMap ctx.declaredEnums).map (·.name) ++
      ctx.owners.map (·.typeName)).Nodup := by
  have hfresh := ctx.fresh_recordsAndInline h
  have hnodup := hfresh.nodup
  rw [hfresh.taken, recordsAndInline_eq] at hnodup
  exact ((List.reverse_perm _).append_right _).nodup_iff.1 hnodup

theorem name_schemaEnums :
    ctx.schemaEnums.map (·.name) = (ctx.owners.filter Owner.isEnum).map (·.typeName) := by
  unfold schemaEnums
  induction ctx.owners with
  | nil => rfl
  | cons owner owners ih =>
    unfold compileEnum? Owner.isEnum at *
    rw [List.filterMap_cons, List.filter_cons]
    cases hrole : owner.shape.role <;> simp [ih]

theorem name_records : (propagateEquatable (ctx.loweredRecords.map ctx.recordFrom)).map (·.name) =
    (ctx.owners.filter Owner.isRecord).map (·.typeName) := by
  have hnames : (·.name) ∘ ctx.recordFrom = (·.typeName) ∘ LoweredRecord.owner := rfl
  rw [map_propagateEquatable fun names r => r.name_spoiledBy names, List.map_map, hnames,
    ← List.map_map, owner_loweredRecords]

theorem name_declarations : ctx.declarations.map (·.name) =
    (ctx.owners.filter Owner.isEnum).map (·.typeName) ++
      (ctx.loweredRecords.flatMap ctx.declaredEnums).map (·.name) ++
      (ctx.owners.filter Owner.isRecord).map (·.typeName) := by
  rw [← name_schemaEnums, ← name_records, declarations_eq, List.map_append, List.map_append,
    List.map_map, List.map_map, List.map_map]
  rfl

/-- **No two declarations have the same name**, if no two owners have. -/
theorem nodup_name_declarations (h : (ctx.owners.map (·.typeName)).Nodup) :
    (ctx.declarations.map (·.name)).Nodup := by
  obtain ⟨hinline, -, hdisjoint⟩ := List.nodup_append.1 (ctx.nodup_declared h)
  have hsublist : ∀ keep : Owner → Bool,
      ((ctx.owners.filter keep).map (·.typeName)).Sublist (ctx.owners.map (·.typeName)) :=
    fun keep => List.filter_sublist.map _
  rw [name_declarations, List.nodup_append, List.nodup_append]
  refine ⟨⟨h.sublist (hsublist _), hinline, ?_⟩, h.sublist (hsublist _), ?_⟩
  · intro a ha b hb hab
    exact hdisjoint b hb a ((hsublist _).subset ha) hab.symm
  · intro a ha b hb hab
    rcases List.mem_append.1 ha with ha | ha
    · -- One owner would be the owner of an enumeration and of a record.
      obtain ⟨owner, howner, rfl⟩ := List.mem_map.1 ha
      obtain ⟨other, hother, hname⟩ := List.mem_map.1 hb
      obtain ⟨howner, henum⟩ := List.mem_filter.1 howner
      obtain ⟨hother, hrecord⟩ := List.mem_filter.1 hother
      have heq : owner = other := List.inj_on_of_nodup_map h howner hother (hab.trans hname.symm)
      obtain ⟨sources, hrole⟩ := Owner.isRecord_iff.1 (heq ▸ hrecord)
      rw [Owner.isEnum, hrole] at henum
      cases henum
    · exact hdisjoint a ha b ((hsublist _).subset hb) hab

/-! ### Cases of an enumeration -/

theorem length_caseNames (values : List String) :
    (uniquify (values.map ctx.settings.render.caseName)).length = values.length := by
  rw [length_uniquify, List.length_map]

theorem map_value_enumCases (values : List String) :
    (ctx.enumCases values).map (·.value) = values := by
  have hvalue : (·.value) ∘ Function.uncurry EnumCase.mk = Prod.snd := rfl
  unfold enumCases
  rw [← List.map_uncurry_zip_eq_zipWith, List.map_map, hvalue, List.map_snd_zip]
  exact Nat.le_of_eq (ctx.length_caseNames values).symm

theorem map_identifier_enumCases (values : List String) :
    (ctx.enumCases values).map (·.identifier) =
      uniquify (values.map ctx.settings.render.caseName) := by
  have hidentifier : (·.identifier) ∘ Function.uncurry EnumCase.mk = Prod.fst := rfl
  unfold enumCases
  rw [← List.map_uncurry_zip_eq_zipWith, List.map_map, hidentifier, List.map_fst_zip]
  exact Nat.le_of_eq (ctx.length_caseNames values)

/-! ### What is written from a lowered record -/

variable {ctx}

theorem properties_recordFrom (record : LoweredRecord) : (ctx.recordFrom record).properties =
    ((uniquify (record.sources.map fun source => memberName source.name)).zip record.fields).map
      fun entry => ctx.property entry.2.source entry.1 entry.2.type := by
  unfold recordFrom recordOf properties LoweredRecord.sources LoweredRecord.types
  generalize uniquify _ = names
  -- Fields and identifiers are taken one by one, whatever the identifiers.
  induction record.fields generalizing names with
  | nil => rw [List.zip_nil_right]; rfl
  | cons field fields ih =>
    cases names with
    | nil => rfl
    | cons name names => exact congrArg (List.cons _) (ih names)

theorem length_memberNames (record : LoweredRecord) :
    (uniquify (record.sources.map fun source => memberName source.name)).length =
      record.fields.length := by
  rw [length_uniquify, List.length_map, LoweredRecord.sources, List.length_map]

/-- What depends on the field of a property only. -/
theorem map_properties_of_field {α : Type} {f : Property → α} {g : LoweredField → α}
    (h : ∀ field name, f (ctx.property field.source name field.type) = g field)
    (record : LoweredRecord) :
    (ctx.recordFrom record).properties.map f = record.fields.map g := by
  have hcomp : (f ∘ fun entry : String × LoweredField =>
      ctx.property entry.2.source entry.1 entry.2.type) = g ∘ Prod.snd := by
    funext entry
    exact h entry.2 entry.1
  rw [properties_recordFrom, List.map_map, hcomp, ← List.map_map, List.map_snd_zip]
  exact Nat.le_of_eq (length_memberNames record).symm

/-- The written types of the properties are the types to which they are lowered. -/
theorem map_type_recordFrom (record : LoweredRecord) :
    (ctx.recordFrom record).properties.map (·.type) =
      record.types.map fun type => type.render ctx.settings.render := by
  rw [LoweredRecord.types, List.map_map]
  exact map_properties_of_field (fun _ _ => rfl) record

/-- The identifiers of the properties are their member names, made distinct. -/
theorem map_name_recordFrom (record : LoweredRecord) :
    (ctx.recordFrom record).properties.map (·.name) =
      uniquify (record.sources.map fun source => memberName source.name) := by
  rw [properties_recordFrom, List.map_map]
  exact List.map_fst_zip (Nat.le_of_eq (length_memberNames record))

/-- By default a property refers to no declaration without a generated name. -/
theorem isGenerated_of_mem_loweredRecords {d : Document} {record : LoweredRecord}
    (hrecord : record ∈ (ofDocument d .default).loweredRecords) :
    IsGenerated record.owner.typeName ∧ ∀ field ∈ record.fields, ∀ name,
      field.type.named? = some name → IsGenerated name := by
  obtain ⟨howner, -, hlowers⟩ := of_mem_loweredRecords hrecord
  have hgenerated : ∀ owner ∈ (ofDocument d .default).owners, IsGenerated owner.typeName := by
    intro owner howner
    rw [((mem_owners d .default).1 howner).2.2.1]
    exact isGenerated_typeName owner.schema
  refine ⟨hgenerated _ howner, fun field hfield name hname => ?_⟩
  rcases (hlowers field hfield).origin hname with ⟨schema, -, howned⟩ | ⟨-, -, rfl⟩
  · obtain ⟨other, hother, -, rfl⟩ := mem_owners_schema howned
    exact hgenerated other hother
  · exact isGenerated_inlineName (hgenerated _ howner) field.source.name

end CompileContext

theorem compile_eq_ok_iff {d : Document} {settings : Settings} {models : CompiledModels} :
    compile d settings = .ok models ↔ (ReferenceGraph.ofDocument d).dangling = [] ∧
      models = ⟨(CompileContext.ofDocument d settings).declarations, settings.render⟩ := by
  cases hdangling : (ReferenceGraph.ofDocument d).dangling with
  | nil =>
    rw [compile, hdangling]
    constructor
    · rintro ⟨⟩
      exact ⟨rfl, rfl⟩
    · rintro ⟨-, rfl⟩
      rfl
  | cons edge edges =>
    rw [compile, hdangling]
    constructor
    · rintro ⟨⟩
    · rintro ⟨⟨⟩, -⟩

end ApiModels
