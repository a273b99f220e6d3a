import ApiModels.Proofs.Change.Addition
import ApiModels.Proofs.Compilation.Identifiers
import ApiModels.Proofs.Compilation.Lookups
import ApiModels.Proofs.Compilation.Lowering
import ApiModels.Proofs.Shape.Addition
import ApiModels.Shape.Equality

/-!
# Compiling a schema with one more property

The shape of the schema gets one more property, in between the others, and no other shape changes
(`CompileContext.AddsProperty`). A walk does not look into a record, so it ends as before
(`AddsProperty.knowsAlike`), and if the property declares no enumeration, then a run over all
records goes on with the same names after it (`AddsProperty.lowerRecords_gains`). The identifier of
the property is a new one, so no other is numbered because of it (`exists_properties_append_cons`).
So the declarations go side by side (`AddsProperty.declarations_gains`), and the diff lists the
property and nothing else (`compile_addsProperty`).
-/

namespace ApiModels

/-- The second document is the first one with one more property in a schema, which is an object with
properties and does not have one of that name. -/
structure Document.AddsProperty (schema key : String) (property : Json) (d d' : Document) :
    Prop where
  schemas : d'.schemas = changeValue schema (·.withProperty key property) d.schemas
  isObject : ∃ members sources, (schema, .object members) ∈ d.schemas ∧
    Json.HasNoKeyword members ∧ Shape.detect (.object members) = .object sources ∧
    sources ≠ [] ∧ key ∉ sources.map (·.name)

theorem Shape.role_object {sources : List (PropertyShape Shape)} (h : sources ≠ []) :
    (Shape.object sources).role = .record sources := by
  cases sources with
  | nil => exact absurd rfl h
  | cons first sources => rfl

theorem Shape.isDeclared_object {sources : List (PropertyShape Shape)} (h : sources ≠ []) :
    (Shape.object sources).isDeclared = true := by
  rw [isDeclared, role_object h]

/-- The owner, with the given properties if it is the owner of the schema. -/
def Owner.withSources (schema : String) (sources : List (PropertyShape Shape)) (owner : Owner) :
    Owner :=
  { owner with shape := if owner.schema = schema then .object sources else owner.shape }

namespace Owner

variable {schema : String} {owner : Owner} {sources : List (PropertyShape Shape)}

theorem withSources_of_ne (h : owner.schema ≠ schema) :
    owner.withSources schema sources = owner := by
  rw [withSources, if_neg h]

theorem role_withSources (h : owner.schema = schema) (hne : sources ≠ []) :
    (owner.withSources schema sources).shape.role = .record sources := by
  rw [withSources, if_pos h, Shape.role_object hne]

end Owner

/-- A lowered record after the record of a schema was given one more property. -/
inductive LoweredRecord.Gains (schema : String) (added : PropertyShape Shape) :
    LoweredRecord → LoweredRecord → Prop
  | same {record : LoweredRecord} (h : record.owner.schema ≠ schema) :
      Gains schema added record record
  | adds {record record' : LoweredRecord} {front back : List LoweredField} {field : LoweredField}
      (h : record.owner.schema = schema) (htype : record'.owner.typeName = record.owner.typeName)
      (hsource : field.source = added) (hfields : record.fields = front ++ back)
      (hfields' : record'.fields = front ++ field :: back) : Gains schema added record record'

namespace CompileContext

/-- Two contexts differ in the shape of one record only, to which a property was added. -/
structure AddsProperty (schema : String) (added : PropertyShape Shape)
    (before after : List (PropertyShape Shape)) (ctx ctx' : CompileContext) : Prop where
  settings : ctx'.settings = ctx.settings
  description : ∀ name, ctx'.description name = ctx.description name
  isRecord : before ++ after ≠ []
  shape : ∀ entry ∈ ctx.shapes, entry.1 = schema → entry.2 = .object (before ++ after)
  ownerShape : ∀ owner ∈ ctx.owners, owner.schema = schema → owner.shape = .object (before ++ after)
  shapes : ctx'.shapes =
    changeValue schema (fun _ => .object (before ++ added :: after)) ctx.shapes
  owners : ctx'.owners = ctx.owners.map (Owner.withSources schema (before ++ added :: after))

section Document

variable {d d' : Document} {schema key : String} {property : Json}
  (h : d.AddsProperty schema key property d') (settings : Settings)

include h

theorem exists_shapes_ofDocument : ∃ added before after, added.name = key ∧ before ++ after ≠ [] ∧
    (∀ entry ∈ (ofDocument d settings).shapes, entry.1 = schema →
      entry.2 = .object (before ++ after)) ∧
    (ofDocument d' settings).shapes = changeValue schema
      (fun _ => .object (before ++ added :: after)) (ofDocument d settings).shapes := by
  obtain ⟨members, sources, hschema, hkeyword, hdetect, hne, hkey⟩ := h.isObject
  obtain ⟨before, added, after, rfl, hname, hdetect'⟩ :=
    Shape.exists_detect_withProperty hkeyword hne hdetect hkey property
  have hkeys : (d.schemas.map (·.1)).Nodup :=
    (Json.sorted_object_iff.1 d.sorted_schemas).1.nodup_keys
  have hdefinition : ∀ entry ∈ d.schemas, entry.1 = schema → entry.2 = .object members := by
    rintro ⟨name, definition⟩ hentry rfl
    have hlookup := (lookup_eq_some_iff_mem hkeys).2 hentry
    exact Option.some.inj (hlookup.symm.trans ((lookup_eq_some_iff_mem hkeys).2 hschema))
  refine ⟨added, before, after, hname, hne, fun entry hentry heq => ?_, ?_⟩
  · obtain ⟨definition, hmem, hdefined⟩ := (mem_shapes_ofDocument d settings).1 hentry
    have hmembers : definition = .object members := hdefinition (entry.1, definition) hmem heq
    rw [← hdefined, hmembers, hdetect]
  · show d'.schemas.map _ = (d.schemas.map _).map _
    rw [h.schemas, changeValue, List.map_map, List.map_map]
    refine List.map_congr_left fun entry hentry => ?_
    by_cases heq : entry.1 = schema
    · simp [heq, hdefinition entry hentry heq, hdetect']
    · simp [heq]

theorem description_ofDocument (name : String) :
    (ofDocument d' settings).description name = (ofDocument d settings).description name := by
  have hget : (ofDocument d' settings).graph.get? name = if name = schema then
      (d.schemas.lookup name).map (·.withProperty key property) else d.schemas.lookup name := by
    show d'.schemas.lookup name = _
    rw [h.schemas, lookup_changeValue]
  have hget' : (ofDocument d settings).graph.get? name = d.schemas.lookup name := rfl
  rw [description, description, hget, hget']
  by_cases heq : name = schema
  · rw [if_pos heq, Option.bind_map]
    refine congrArg (fun text => Option.bind text _) (Option.bind_congr fun definition _ => ?_)
    exact Json.get?_withProperty (by simp) definition key property
  · rw [if_neg heq]

/-- **Only the shape of one record changes**, and with it no owner gets another name. -/
theorem exists_addsProperty : ∃ added before after, added.name = key ∧
    AddsProperty schema added before after (ofDocument d settings) (ofDocument d' settings) := by
  obtain ⟨added, before, after, hname, hne, hshape, hshapes⟩ := exists_shapes_ofDocument h settings
  have howners : (ofDocument d' settings).owners = (ofDocument d settings).owners.map
      (Owner.withSources schema (before ++ added :: after)) := by
    show ownersAmong settings.naming.typeName [] (ofDocument d' settings).shapes = _
    let grow (name : String) (shape : Shape) : Shape :=
      if name = schema then .object (before ++ added :: after) else shape
    have hdeclared : ∀ entry ∈ (ofDocument d settings).shapes,
        (grow entry.1 entry.2).isDeclared = entry.2.isDeclared := by
      intro entry hentry
      show (if entry.1 = schema then _ else _ : Shape).isDeclared = _
      by_cases heq : entry.1 = schema
      · rw [hshape entry hentry heq, Shape.isDeclared_object hne, if_pos heq,
          Shape.isDeclared_object (by simp)]
      · rw [if_neg heq]
    rw [hshapes]
    exact ownersAmong_map hdeclared
  refine ⟨added, before, after, hname, rfl, description_ofDocument h settings, hne, hshape,
    fun owner howner => ?_, hshapes, howners⟩
  exact hshape _ ((mem_owners d settings).1 howner).1

end Document

/-! ### One more field -/

/-- A property that declares nothing is lowered between the others, and the run goes on as before
after it. -/
theorem exists_lowerFields_append_cons {ctx : CompileContext} {owner : Owner}
    {inline : InlineEnums} {added : PropertyShape Shape} {before after : List (PropertyShape Shape)}
    (hnone : ∀ field ∈ (ctx.lowerFields owner inline (before ++ added :: after)).1,
      field.source = added → ctx.declaredEnum? owner field = none) :
    ∃ front field back, field.source = added ∧
      (ctx.lowerFields owner inline (before ++ after)).1 = front ++ back ∧
      (ctx.lowerFields owner inline (before ++ added :: after)).1 = front ++ field :: back ∧
      (ctx.lowerFields owner inline (before ++ added :: after)).2 =
        (ctx.lowerFields owner inline (before ++ after)).2 := by
  induction before generalizing inline with
  | nil =>
    obtain ⟨field, hsource, -, hcons⟩ := ctx.exists_lowerFields_cons owner inline added
    rw [List.nil_append, hcons] at hnone
    have hdeclared : ctx.declaredEnum? owner field = none := hnone field List.mem_cons_self hsource
    rw [hdeclared, Option.toList_none, InlineEnums.add_nil] at hcons
    rw [List.nil_append, List.nil_append, hcons]
    exact ⟨[], field, _, hsource, rfl, rfl, rfl⟩
  | cons source before ih =>
    obtain ⟨first, -, -, hcons⟩ := ctx.exists_lowerFields_cons owner inline source
    rw [List.cons_append, hcons] at hnone
    obtain ⟨front, field, back, hsource, hold, hnew, hinline⟩ :=
      ih fun field hfield => hnone field (List.mem_cons_of_mem first hfield)
    rw [List.cons_append, List.cons_append, hcons, hcons]
    refine ⟨first :: front, field, back, hsource, ?_, ?_, hinline⟩
    · rw [hold, List.cons_append]
    · rw [hnew, List.cons_append]

/-- A field that is put between the others is written in between, and the others are written as
before. -/
theorem exists_properties_append_cons {ctx : CompileContext} {record record' : LoweredRecord}
    {front back : List LoweredField} {field : LoweredField}
    (hfields : record.fields = front ++ back) (hfields' : record'.fields = front ++ field :: back)
    (hunused : memberName field.source.name ∉ (ctx.recordFrom record).propertyNames) :
    ∃ before property after, (ctx.recordFrom record).properties = before ++ after ∧
      property.name = memberName field.source.name ∧
      (ctx.recordFrom record').properties = before ++ property :: after := by
  let identifier (field : LoweredField) : String := memberName field.source.name
  let write (entry : String × LoweredField) : Property :=
    ctx.property entry.2.source entry.1 entry.2.type
  have hidentifiers : ∀ record : LoweredRecord,
      record.sources.map (fun source => memberName source.name) =
        record.fields.map identifier := by
    intro record
    exact List.map_map
  have hnames : (ctx.recordFrom record).propertyNames = _ := map_name_recordFrom record
  rw [hnames, hidentifiers, hfields, List.map_append] at hunused
  obtain ⟨names, names', hlength, hold, hnew⟩ :=
    uniquifyAfter_append_cons List.not_mem_nil hunused
  rw [List.length_map] at hlength
  refine ⟨(names.zip front).map write, write (identifier field, field),
    (names'.zip back).map write, ?_, rfl, ?_⟩
  · rw [properties_recordFrom, hidentifiers, hfields, List.map_append, uniquify, hold,
      List.zip_append hlength, List.map_append]
  · rw [properties_recordFrom, hidentifiers, hfields', List.map_append, List.map_cons, uniquify,
      hnew, List.zip_append hlength, List.map_append]
    rfl

/-- A property of a schema declares no enumeration when it is lowered. -/
def DeclaresNoEnum (ctx : CompileContext) (schema key : String) : Prop :=
  ∀ record ∈ ctx.loweredRecords, record.owner.schema = schema →
    ∀ field ∈ record.fields, field.source.name = key → ctx.declaredEnum? record.owner field = none

/-! ### Two runs -/

namespace AddsProperty

variable {ctx ctx' : CompileContext} {schema : String} {added : PropertyShape Shape}
  {before after : List (PropertyShape Shape)} (h : AddsProperty schema added before after ctx ctx')

include h

theorem ownedName?_eq (name : String) : ctx'.ownedName? name = ctx.ownedName? name := by
  unfold ownedName?
  rw [h.owners, List.find?_map, Option.map_map]
  rfl

/-- What the contexts tell a walk is the same: the record is one in both. -/
theorem knowsAlike (name : String) : ctx.KnowsAlike ctx' name := by
  have hlookup : ctx'.shapes.lookup name = if name = schema then
      (ctx.shapes.lookup name).map fun _ => .object (before ++ added :: after)
      else ctx.shapes.lookup name := by
    rw [h.shapes, lookup_changeValue]
  have howned := h.ownedName?_eq name
  cases hsome : ctx.shapes.lookup name with
  | none =>
    rw [hsome, Option.map_none, ite_self] at hlookup
    exact .missing hsome hlookup
  | some shape =>
    rw [hsome] at hlookup
    by_cases heq : name = schema
    · rw [if_pos heq] at hlookup
      have hshape : shape = .object (before ++ after) :=
        h.shape (name, shape) (Json.mem_of_lookup hsome) heq
      refine .declared hsome hlookup ?_ (Shape.isDeclared_object (by simp)) howned
      rw [hshape, Shape.isDeclared_object h.isRecord]
    · rw [if_neg heq] at hlookup
      by_cases hdeclared : shape.isDeclared = true
      · exact .declared hsome hlookup hdeclared hdeclared howned
      · exact .same hsome hlookup hdeclared

theorem walk_eq (followed : List String) (shape : Shape) :
    ctx'.walk followed shape = ctx.walk followed shape :=
  walk_congr fun name _ => h.knowsAlike name

theorem lowerFields_eq (owner : Owner) (shape : Shape) (inline : InlineEnums)
    (sources : List (PropertyShape Shape)) :
    ctx'.lowerFields { owner with shape := shape } inline sources =
      ctx.lowerFields owner inline sources := by
  have hsettle : ∀ property inline walk,
      ctx'.settle { owner with shape := shape } property inline walk =
        ctx.settle owner property inline walk := by
    intro property inline walk
    unfold settle enumCases
    rw [h.settings]
  induction sources generalizing inline with
  | nil => rfl
  | cons source sources ih => simp only [lowerFields, hsettle, h.walk_eq, ih]

/-- **The two runs go side by side**: each record is lowered to the same, or gains the property, and
the same enumerations are declared. -/
theorem lowerRecords_gains {owners : List Owner} (inline : InlineEnums)
    (hshape : ∀ owner ∈ owners, owner.schema = schema → owner.shape = .object (before ++ after))
    (hnone : ∀ record ∈ (ctx'.lowerRecords inline
        (owners.map (Owner.withSources schema (before ++ added :: after)))).1,
      record.owner.schema = schema → ∀ field ∈ record.fields, field.source = added →
        ctx'.declaredEnum? record.owner field = none) :
    List.Forall₂ (LoweredRecord.Gains schema added) (ctx.lowerRecords inline owners).1
        (ctx'.lowerRecords inline
          (owners.map (Owner.withSources schema (before ++ added :: after)))).1 ∧
      (ctx'.lowerRecords inline
        (owners.map (Owner.withSources schema (before ++ added :: after)))).2 =
        (ctx.lowerRecords inline owners).2 := by
  -- Both runs reach each owner with the same names, so the induction is over every start.
  induction owners generalizing inline with
  | nil => exact ⟨.nil, rfl⟩
  | cons owner owners ih =>
    have hrest := fun inline => ih inline fun owner hmem =>
      hshape owner (List.mem_cons_of_mem _ hmem)
    rw [List.map_cons] at hnone ⊢
    by_cases hname : owner.schema = schema
    · -- This is the record of the schema, which has the property in the second run.
      have hrole : owner.shape.role = .record (before ++ after) := by
        rw [hshape owner List.mem_cons_self hname, Shape.role_object h.isRecord]
      have hrole' : (owner.withSources schema (before ++ added :: after)).shape.role =
          .record (before ++ added :: after) := Owner.role_withSources hname (by simp)
      have hfields : ctx'.lowerFields (owner.withSources schema (before ++ added :: after))
          inline (before ++ after) = ctx.lowerFields owner inline (before ++ after) :=
        h.lowerFields_eq owner _ inline (before ++ after)
      simp only [lowerRecords_cons_of_record hrole'] at hnone ⊢
      simp only [lowerRecords_cons_of_record hrole]
      obtain ⟨front, field, back, hsource, hold, hnew, hinline⟩ :=
        exists_lowerFields_append_cons (hnone _ List.mem_cons_self hname)
      rw [hfields] at hold hinline
      rw [hinline] at hnone ⊢
      obtain ⟨hgains, hinline'⟩ := hrest _ fun record hmem =>
        hnone record (List.mem_cons_of_mem _ hmem)
      exact ⟨.cons (.adds hname rfl hsource hold hnew) hgains, hinline'⟩
    · rw [Owner.withSources_of_ne hname] at hnone ⊢
      by_cases hrecord : owner.isRecord = true
      · obtain ⟨sources, hrole⟩ := Owner.isRecord_iff.1 hrecord
        have hfields : ctx'.lowerFields owner inline sources =
            ctx.lowerFields owner inline sources :=
          h.lowerFields_eq owner owner.shape inline sources
        simp only [lowerRecords_cons_of_record hrole, hfields] at hnone ⊢
        obtain ⟨hgains, hinline⟩ := hrest _ fun record hmem =>
          hnone record (List.mem_cons_of_mem _ hmem)
        exact ⟨.cons (.same hname) hgains, hinline⟩
      · simp only [lowerRecords_cons_of_not_record hrecord] at hnone ⊢
        exact hrest inline hnone

/-! ### The declarations -/

theorem typeName_owners_eq : ctx'.owners.map (·.typeName) = ctx.owners.map (·.typeName) := by
  rw [h.owners, List.map_map]
  rfl

theorem schemaEnums_eq : ctx'.schemaEnums = ctx.schemaEnums := by
  unfold schemaEnums
  rw [h.owners, List.filterMap_map]
  refine List.filterMap_congr fun owner howner => ?_
  show ctx'.compileEnum? (owner.withSources schema _) = ctx.compileEnum? owner
  by_cases hname : owner.schema = schema
  · -- The schema is a record in both, so it is no enumeration.
    have hrole : owner.shape.role = .record (before ++ after) := by
      rw [h.ownerShape owner howner hname, Shape.role_object h.isRecord]
    have hrole' : (owner.withSources schema (before ++ added :: after)).shape.role =
        .record (before ++ added :: after) := Owner.role_withSources hname (by simp)
    unfold compileEnum?
    rw [hrole, hrole']
  · rw [Owner.withSources_of_ne hname]
    unfold compileEnum? enumCases
    rw [h.settings, h.description]

/-- The lowered records go side by side, and their properties declare the same enumerations. -/
theorem loweredRecords_gains (hnone : ctx'.DeclaresNoEnum schema added.name) :
    List.Forall₂ (LoweredRecord.Gains schema added) ctx.loweredRecords ctx'.loweredRecords ∧
      ctx'.loweredRecords.flatMap ctx'.declaredEnums =
        ctx.loweredRecords.flatMap ctx.declaredEnums := by
  have hrecords : ctx'.loweredRecords = (ctx'.lowerRecords ⟨ctx.owners.map (·.typeName), []⟩
      (ctx.owners.map (Owner.withSources schema (before ++ added :: after)))).1 := by
    rw [loweredRecords, h.typeName_owners_eq, h.owners]
  obtain ⟨hgains, hinline⟩ := h.lowerRecords_gains ⟨ctx.owners.map (·.typeName), []⟩ h.ownerShape
    fun record hrecord hschema field hfield hsource =>
      hnone record (hrecords ▸ hrecord) hschema field hfield (congrArg (·.name) hsource)
  rw [← hrecords] at hgains
  rw [snd_lowerRecords, snd_lowerRecords, ← hrecords] at hinline
  exact ⟨hgains, congrArg (·.enums) hinline⟩

theorem properties_recordFrom_eq (record : LoweredRecord) :
    (ctx'.recordFrom record).properties = (ctx.recordFrom record).properties := by
  rw [properties_recordFrom, properties_recordFrom]
  unfold property
  rw [h.settings]

theorem recordFrom_gains {typeName : String} {record record' : LoweredRecord}
    (hname : record.owner.typeName = typeName ↔ record.owner.schema = schema)
    (hunused : record.owner.typeName = typeName →
      memberName added.name ∉ (ctx.recordFrom record).propertyNames)
    (hgains : record.Gains schema added record') :
    (Declaration.record (ctx.recordFrom record)).Gains typeName (memberName added.name)
      (.record (ctx'.recordFrom record')) := by
  cases hgains with
  | same hne =>
    exact .same (fun heq => hne (hname.1 heq)) rfl (.record (h.properties_recordFrom_eq record))
  | adds hschema htype hsource hfields hfields' =>
    have hfree := hunused (hname.2 hschema)
    rw [← hsource] at hfree ⊢
    refine .adds (hname.2 hschema) ⟨htype, hfree, ?_⟩
    rw [h.properties_recordFrom_eq]
    exact exists_properties_append_cons hfields hfields' hfree

/-- **The declarations go side by side**: the record of the schema gains the property, and all else
has the members it had. -/
theorem declarations_gains (hnodup : (ctx.owners.map (·.typeName)).Nodup)
    (hschemas : (ctx.owners.map (·.schema)).Nodup) {typeName : String}
    (howned : ctx.ownedName? schema = some typeName)
    (hnone : ctx'.DeclaresNoEnum schema added.name)
    (hunused : ∀ record ∈ ctx.loweredRecords, record.owner.typeName = typeName →
      memberName added.name ∉ (ctx.recordFrom record).propertyNames) :
    typeName ∈ ctx.declarations.map (·.name) ∧
      List.Forall₂ (Declaration.Gains typeName (memberName added.name)) ctx.declarations
        ctx'.declarations := by
  obtain ⟨owner, howner, rfl, rfl⟩ := mem_owners_schema howned
  -- The type name belongs to the schema and to nothing else.
  have htypes : ∀ other ∈ ctx.owners,
      (other.typeName = owner.typeName ↔ other.schema = owner.schema) := by
    intro other hother
    constructor
    · exact fun heq => congrArg (·.schema) (List.inj_on_of_nodup_map hnodup hother howner heq)
    · exact fun heq => congrArg (·.typeName) (List.inj_on_of_nodup_map hschemas hother howner heq)
  have hrecord : owner.isRecord = true := by
    refine Owner.isRecord_iff.2 ⟨before ++ after, ?_⟩
    rw [h.ownerShape owner howner rfl, Shape.role_object h.isRecord]
  have hmem : owner.typeName ∈ (ctx.owners.filter Owner.isRecord).map (·.typeName) :=
    List.mem_map_of_mem (List.mem_filter.2 ⟨howner, hrecord⟩)
  obtain ⟨hgains, hinline⟩ := h.loweredRecords_gains hnone
  constructor
  · rw [name_declarations]
    exact List.mem_append_right _ hmem
  -- No enumeration has the name of the record.
  have hdistinct := ctx.nodup_name_declarations hnodup
  rw [name_declarations, ← name_schemaEnums, ← List.map_append] at hdistinct
  have henums : ∀ e ∈ ctx.schemaEnums ++ ctx.loweredRecords.flatMap ctx.declaredEnums,
      Declaration.Gains owner.typeName (memberName added.name) (.enum e) (.enum e) := by
    intro e he
    have hne := (List.nodup_append.1 hdistinct).2.2 _ (List.mem_map_of_mem he) _ hmem
    exact .same hne rfl (.enum e)
  rw [declarations_eq, declarations_eq, h.schemaEnums_eq, hinline, ← List.map_append]
  refine List.rel_append ?_ ?_
  · rw [List.forall₂_map_left_iff, List.forall₂_map_right_iff, List.forall₂_same]
    exact henums
  · rw [List.forall₂_map_left_iff, List.forall₂_map_right_iff,
      forall₂_propagateEquatable_iff fun _ _ _ => Declaration.Gains.marked_iff,
      List.forall₂_map_left_iff, List.forall₂_map_right_iff]
    refine ((List.forall₂_and_left _ _).2 ⟨fun record hrecord => hrecord, hgains⟩).imp ?_
    rintro record record' ⟨hrecord, hgains⟩
    have hname := htypes record.owner (of_mem_loweredRecords hrecord).1
    exact h.recordFrom_gains hname (hunused record hrecord) hgains

end AddsProperty

end CompileContext

/-- **Adding a property is a minor change.** If the schema owns its type, if the property declares no
enumeration in line, and if its identifier is not in use in the record, then the diff lists this
member and nothing else. Whether the property is required is not looked at. -/
theorem compile_addsProperty {d d' : Document} {settings : Settings} {schema key typeName : String}
    {property : Json} {old new : CompiledModels} (hadds : d.AddsProperty schema key property d')
    (howned : (CompileContext.ofDocument d settings).ownedName? schema = some typeName)
    (hnone : (CompileContext.ofDocument d' settings).DeclaresNoEnum schema key)
    (hold : compile d settings = .ok old) (hnew : compile d' settings = .ok new)
    (hunused : ∀ r, .record r ∈ old.declarations → r.name = typeName →
      memberName key ∉ r.propertyNames) (profile : RenderProfile) :
    diff profile old.snapshot.toMap new.snapshot.toMap =
      ⟨[], [], [], [memberEntry typeName (memberName key)], [], .minor⟩ := by
  obtain ⟨-, rfl⟩ := compile_eq_ok_iff.1 hold
  obtain ⟨-, rfl⟩ := compile_eq_ok_iff.1 hnew
  obtain ⟨added, before, after, rfl, h⟩ := CompileContext.exists_addsProperty hadds settings
  have htypes := CompileContext.nodup_typeName_owners d settings
  have hschemas := nodup_of_pairwise_lt (CompileContext.pairwise_owners d settings)
  have hfree : ∀ record ∈ (CompileContext.ofDocument d settings).loweredRecords,
      record.owner.typeName = typeName → memberName added.name ∉
        ((CompileContext.ofDocument d settings).recordFrom record).propertyNames := by
    intro record hrecord hname
    obtain ⟨r, hr, hrname, hproperties⟩ :=
      (CompileContext.exists_record_mem_declarations_iff _).2 ⟨record, hrecord, hname, rfl⟩
    have hnot := hunused r hr hrname
    rwa [RecordType.propertyNames, hproperties] at hnot
  obtain ⟨htype, hgains⟩ := h.declarations_gains htypes hschemas howned hnone hfree
  have hnodup := (CompileContext.ofDocument d settings).nodup_name_declarations htypes
  exact diff_eq_of_addsMember profile (addsMember_ofList hnodup hgains htype)

/-- A widget with the given properties. -/
def widget (properties : List (String × Json)) : Json :=
  .object [("properties", .object properties), ("type", .text "object")]

/-- A widget with a name, with parts that are widgets, and with a weight. -/
def widgetDocument : Document where
  members := [
    ("components", .object [("schemas", .object [
      ("Widget", widget [
        ("name", .object [("type", .text "string")]),
        ("parts", .object [
          ("items", .object [("$ref", .text "#/components/schemas/Widget")]),
          ("type", .text "array")]),
        ("weight", .object [("type", .text "number")])])])])]
  sorted := by decide +kernel
  sections := by decide +kernel

/-- The widget has a size, too. -/
def sizedDocument : Document where
  members := [
    ("components", .object [("schemas", .object [
      ("Widget", widget [
        ("name", .object [("type", .text "string")]),
        ("parts", .object [
          ("items", .object [("$ref", .text "#/components/schemas/Widget")]),
          ("type", .text "array")]),
        ("size", .object [("type", .text "string")]),
        ("weight", .object [("type", .text "number")])])])])]
  sorted := by decide +kernel
  sections := by decide +kernel

/-- The properties of the widget. -/
def widgetSources : List (PropertyShape Shape) := [
  ⟨"name", false, none, .primitive .string none⟩,
  ⟨"parts", false, none, .array (.reference "Widget")⟩,
  ⟨"weight", false, none, .primitive .number none⟩]

/-- The properties of the widget that has a size, too. -/
def sizedSources : List (PropertyShape Shape) := [
  ⟨"name", false, none, .primitive .string none⟩,
  ⟨"parts", false, none, .array (.reference "Widget")⟩,
  ⟨"size", false, none, .primitive .string none⟩,
  ⟨"weight", false, none, .primitive .number none⟩]

theorem shapes_widgetDocument : (CompileContext.ofDocument widgetDocument .default).shapes =
    [("Widget", .object widgetSources)] := by
  decide +kernel

theorem shapes_sizedDocument : (CompileContext.ofDocument sizedDocument .default).shapes =
    [("Widget", .object sizedSources)] := by
  decide +kernel

/-- Where a record is all there is, its properties are those of every lowered record. -/
theorem sources_of_shapes {d : Document} {settings : Settings} {schema : String}
    {sources : List (PropertyShape Shape)} (hne : sources ≠ [])
    (hshapes : (CompileContext.ofDocument d settings).shapes = [(schema, .object sources)])
    {record : LoweredRecord} (h : record ∈ (CompileContext.ofDocument d settings).loweredRecords) :
    record.sources = sources := by
  obtain ⟨howner, hrole, -⟩ := CompileContext.of_mem_loweredRecords h
  obtain ⟨hshape, -⟩ := (CompileContext.mem_owners d settings).1 howner
  rw [hshapes, List.mem_singleton, Prod.mk.injEq] at hshape
  rw [hshape.2, Shape.role_object hne] at hrole
  cases hrole
  rfl

/-- The size is put between the properties of the widget, and nothing else changes. -/
theorem compile_addsProperty_widget :
    let ctx := CompileContext.ofDocument widgetDocument .default
    let ctx' := CompileContext.ofDocument sizedDocument .default
    widgetDocument.AddsProperty "Widget" "size" (.object [("type", .text "string")])
        sizedDocument ∧
      ctx.ownedName? "Widget" = some "GeneratedWidget" ∧ ctx'.DeclaresNoEnum "Widget" "size" ∧
      compile widgetDocument .default = .ok ⟨ctx.declarations, .default⟩ ∧
      compile sizedDocument .default = .ok ⟨ctx'.declarations, .default⟩ ∧
      (∀ r, .record r ∈ ctx.declarations → r.name = "GeneratedWidget" →
        memberName "size" ∉ r.propertyNames) ∧
      diff .default (.ofList ctx.declarations) (.ofList ctx'.declarations) =
        ⟨[], [], [], ["GeneratedWidget.size"], [], .minor⟩ := by
  intro ctx ctx'
  have hadds : widgetDocument.AddsProperty "Widget" "size" (.object [("type", .text "string")])
      sizedDocument := by
    refine ⟨rfl, _, widgetSources, List.mem_cons_self, ?_, ?_, ?_, ?_⟩
    · show ∀ keyword ∈ _, List.lookup keyword _ = none
      decide +kernel
    all_goals decide +kernel
  have howned : ctx.ownedName? "Widget" = some "GeneratedWidget" := by decide +kernel
  have hnone : ctx'.DeclaresNoEnum "Widget" "size" := by
    intro record hrecord _ field hfield hname
    rw [Option.eq_none_iff_forall_ne_some]
    intro e he
    obtain ⟨-, values, hinline, -⟩ := CompileContext.declaredEnum?_eq_some_iff.1 he
    have hsource : field.source ∈ record.sources := List.mem_map_of_mem hfield
    rw [sources_of_shapes (by decide) shapes_sizedDocument hrecord] at hsource
    have hshape : ∀ source ∈ sizedSources, source.name = "size" →
        source.shape = .primitive .string none := by decide
    rw [hshape _ hsource hname] at hinline
    cases hinline
  have hcompile : compile widgetDocument .default = .ok ⟨ctx.declarations, .default⟩ :=
    compile_eq_ok_iff.2 ⟨by decide +kernel, rfl⟩
  have hcompile' : compile sizedDocument .default = .ok ⟨ctx'.declarations, .default⟩ :=
    compile_eq_ok_iff.2 ⟨by decide +kernel, rfl⟩
  have hunused : ∀ r, .record r ∈ ctx.declarations → r.name = "GeneratedWidget" →
      memberName "size" ∉ r.propertyNames := by
    intro r hr _
    obtain ⟨record, hrecord, -, hproperties⟩ :=
      (CompileContext.exists_record_mem_declarations_iff _).1 ⟨r, hr, rfl, rfl⟩
    rw [RecordType.propertyNames, ← hproperties, CompileContext.map_name_recordFrom,
      sources_of_shapes (by decide) shapes_widgetDocument hrecord]
    decide +kernel
  have hdiff := compile_addsProperty hadds howned hnone hcompile hcompile' hunused .default
  exact ⟨hadds, howned, hnone, hcompile, hcompile', hunused, hdiff⟩

end ApiModels
