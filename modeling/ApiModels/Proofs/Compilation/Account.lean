import ApiModels.Proofs.Change.Part
import ApiModels.Proofs.Compilation.Lowering
import ApiModels.Proofs.Shape.Properties
import ApiModels.Shape.Equality

/-!
# What becomes of every schema

A declaration is the one of a schema (`CompiledFrom`) or an enumeration in line (`IsInlineOf`), and
every declaration is one of the two (`compiledFrom_or_isInlineOf`).

Every schema that is to be declared has exactly one declaration under its type name, unless an
earlier schema has the same type name (`declaresAs_iff`). Each of the three groups of declarations
is in the order of its sources: those of schemas by the schema, and those in line by the schema of
the record and the name of the property (`isOf_account`). `compile_accountsFor` is the whole.
-/

namespace ApiModels

/-- The kind of declaration of a schema with the shape, if it is to be declared. -/
def Shape.kind? (shape : Shape) : Option DeclarationKind :=
  match shape.role with
  | .enum _ => some .enum
  | .record _ => some .struct
  | _ => none

theorem Shape.eq_object_of_role {shape : Shape} {sources : List (PropertyShape Shape)}
    (h : shape.role = .record sources) : shape = .object sources := by
  unfold role at h
  split at h
  · cases h
  · cases h
  · cases h
    rfl
  · cases h

theorem Shape.eq_enumeration_of_role {shape : Shape} {values : List String}
    (h : shape.role = .enum values) : shape = .enumeration values := by
  unfold role at h
  split at h
  · cases h
    rfl
  · cases h
  · cases h
  · cases h

theorem Shape.role_of_isDeclared {shape : Shape} (h : shape.isDeclared = true) :
    (∃ values, shape.role = .enum values) ∨ ∃ sources, shape.role = .record sources := by
  unfold isDeclared at h
  cases hrole : shape.role with
  | enum values => exact .inl ⟨values, rfl⟩
  | record sources => exact .inr ⟨sources, rfl⟩
  | _ =>
    rw [hrole] at h
    cases h

/-- The declarations of a compilation with what they come from: the enumerations of schemas, those
that stand in line in properties, and the records of schemas. -/
structure Account where
  enums : List (String × EnumType)
  inline : List ((LoweredRecord × LoweredField) × EnumType)
  records : List (String × RecordType)

/-- The declarations of an account, in their order. -/
def Account.declarations (account : Account) : List Declaration :=
  (account.enums.map (·.2)).map .enum ++ (account.inline.map (·.2)).map .enum ++
    (account.records.map (·.2)).map .record

theorem Account.mem_declarations {account : Account} {declaration : Declaration} :
    declaration ∈ account.declarations ↔
      (∃ entry ∈ account.enums, .enum entry.2 = declaration) ∨
        (∃ entry ∈ account.inline, .enum entry.2 = declaration) ∨
          ∃ entry ∈ account.records, .record entry.2 = declaration := by
  unfold Account.declarations
  simp only [List.mem_append, List.map_map, List.mem_map, Function.comp_apply, or_assoc]

namespace CompileContext

variable (ctx : CompileContext)

/-- A declaration is the one of the schema: its own enumeration, or its own record. -/
inductive CompiledFrom (schema : String) : Declaration → Prop
  | enum {shape : Shape} {values : List String} (hshape : (schema, shape) ∈ ctx.shapes)
    (hrole : shape.role = .enum values) :
    CompiledFrom schema (.enum ⟨ctx.settings.naming.typeName schema, some schema,
      ctx.description schema, ctx.enumCases values⟩)
  | record {shape : Shape} {record : LoweredRecord} {r : RecordType}
    (hshape : (schema, shape) ∈ ctx.shapes) (hrole : shape.role = .record record.sources)
    (howner : record.owner = ⟨schema, ctx.settings.naming.typeName schema, shape⟩)
    (hrecord : record ∈ ctx.loweredRecords) (hwrites : ctx.Writes record r) :
    CompiledFrom schema (.record r)

/-- An enumeration is the one that stands in line in a property of a record. -/
structure IsInlineOf (p : LoweredRecord × LoweredField) (e : EnumType) : Prop where
  /-- The property is one of the properties of the record of a schema. -/
  property : p ∈ ctx.fields
  shape : (p.1.owner.schema, p.1.owner.shape) ∈ ctx.shapes
  role : p.1.owner.shape.role = .record p.1.sources
  /-- The property has the type that the enumeration declares. -/
  named : p.2.type.named? = some e.name
  /-- The cases are the literals in the schema of the property. -/
  literals : p.2.source.shape.HoldsInline (e.cases.map (·.value))
  source : e.sourceName = some (p.1.owner.schema ++ "." ++ p.2.source.name)

variable {ctx} {schema : String} {declaration : Declaration}

namespace CompiledFrom

theorem name (h : ctx.CompiledFrom schema declaration) :
    declaration.name = ctx.settings.naming.typeName schema := by
  cases h with
  | enum => rfl
  | record hshape hrole howner hrecord hwrites =>
    rw [Declaration.name, hwrites]
    exact congrArg Owner.typeName howner

theorem sourceName (h : ctx.CompiledFrom schema declaration) :
    declaration.sourceName = some schema := by
  cases h with
  | enum => rfl
  | record hshape hrole howner hrecord hwrites =>
    rw [Declaration.sourceName, hwrites]
    exact congrArg (fun owner => some owner.schema) howner

theorem kind (h : ctx.CompiledFrom schema declaration) :
    ∃ shape, (schema, shape) ∈ ctx.shapes ∧ shape.kind? = some declaration.kind := by
  cases h with
  | enum hshape hrole => exact ⟨_, hshape, by rw [Shape.kind?, hrole, Declaration.kind]⟩
  | record hshape hrole => exact ⟨_, hshape, by rw [Shape.kind?, hrole, Declaration.kind]⟩

end CompiledFrom

/-! ### The three groups of declarations -/

variable (ctx)

/-- The account of a compilation. -/
def account : Account where
  enums := ctx.owners.filterMap fun owner => (ctx.compileEnum? owner).map (owner.schema, ·)
  inline := ctx.fields.filterMap fun p => (ctx.declaredEnum? p.1.owner p.2).map (p, ·)
  records := (ctx.loweredRecords.zip (ctx.declarations.filterMap Declaration.record?)).map
    fun p => (p.1.owner.schema, p.2)

theorem declarations_account : ctx.account.declarations = ctx.declarations := by
  have henums : ctx.account.enums.map (·.2) = ctx.schemaEnums := by
    simp [account, schemaEnums, List.map_filterMap, Option.map_map, Function.comp_def]
  have hinline : ctx.account.inline.map (·.2) = ctx.loweredRecords.flatMap ctx.declaredEnums := by
    rw [← filterMap_declaredEnum?_fields]
    simp [account, List.map_filterMap, Option.map_map, Function.comp_def]
  have hrecords : ctx.account.records.map (·.2) =
      ctx.declarations.filterMap Declaration.record? := by
    have hlength := ctx.forall₂_writes.length_eq
    have hsnd : (·.2) ∘ (fun p : LoweredRecord × RecordType => (p.1.owner.schema, p.2)) =
        Prod.snd := rfl
    unfold account
    rw [List.map_map, hsnd, List.map_snd_zip hlength.ge]
  rw [Account.declarations, henums, hinline, hrecords, filterMap_record?_declarations]
  exact ctx.declarations_eq.symm

section Document

variable (d : Document) (settings : Settings)

theorem compiledFrom_of_mem_enums {entry : String × EnumType}
    (h : entry ∈ (ofDocument d settings).account.enums) :
    (ofDocument d settings).CompiledFrom entry.1 (.enum entry.2) := by
  obtain ⟨owner, howner, hentry⟩ := List.mem_filterMap.1 h
  obtain ⟨e, he, rfl⟩ := Option.map_eq_some_iff.1 hentry
  obtain ⟨hshape, -, hname, -⟩ := (mem_owners d settings).1 howner
  unfold compileEnum? at he
  split at he
  · next values hrole =>
    cases he
    rw [hname]
    exact .enum hshape hrole
  · cases he

theorem compiledFrom_of_mem_records {entry : String × RecordType}
    (h : entry ∈ (ofDocument d settings).account.records) :
    (ofDocument d settings).CompiledFrom entry.1 (.record entry.2) := by
  obtain ⟨⟨record, r⟩, hmem, rfl⟩ := List.mem_map.1 h
  have hwrites := (List.forall₂_iff_zip.1 (ofDocument d settings).forall₂_writes).2 hmem
  have hrecord := (List.of_mem_zip hmem).1
  obtain ⟨howner, hrole, -⟩ := of_mem_loweredRecords hrecord
  obtain ⟨hshape, -, hname, -⟩ := (mem_owners d settings).1 howner
  exact .record hshape hrole (congrArg (fun name => Owner.mk _ name _) hname) hrecord hwrites

theorem isInlineOf_of_mem_inline {entry : (LoweredRecord × LoweredField) × EnumType}
    (h : entry ∈ (ofDocument d settings).account.inline) :
    (ofDocument d settings).IsInlineOf entry.1 entry.2 := by
  obtain ⟨p, hp, hentry⟩ := List.mem_filterMap.1 h
  obtain ⟨e, he, rfl⟩ := Option.map_eq_some_iff.1 hentry
  obtain ⟨hnamed, values, hinline, rfl⟩ := declaredEnum?_eq_some_iff.1 he
  obtain ⟨howner, hrole, -⟩ := of_mem_loweredRecords ((ofDocument d settings).mem_fields.1 hp).1
  refine ⟨hp, ((mem_owners d settings).1 howner).1, hrole, hnamed, ?_, rfl⟩
  have hvalues := (ofDocument d settings).map_value_enumCases values
  show p.2.source.shape.HoldsInline (((ofDocument d settings).enumCases values).map _)
  rwa [hvalues]

/-- **Every declaration comes from a schema, or stands in line in a property.** -/
theorem compiledFrom_or_isInlineOf {declaration : Declaration}
    (h : declaration ∈ (ofDocument d settings).declarations) :
    (∃ schema, (ofDocument d settings).CompiledFrom schema declaration) ∨
      ∃ p e, (ofDocument d settings).IsInlineOf p e ∧ .enum e = declaration := by
  rw [← declarations_account] at h
  rcases Account.mem_declarations.1 h with ⟨entry, hentry, rfl⟩ | ⟨entry, hentry, rfl⟩ |
    ⟨entry, hentry, rfl⟩
  · exact .inl ⟨_, compiledFrom_of_mem_enums d settings hentry⟩
  · exact .inr ⟨_, _, isInlineOf_of_mem_inline d settings hentry, rfl⟩
  · exact .inl ⟨_, compiledFrom_of_mem_records d settings hentry⟩

/-! ### The order of the declarations -/

theorem ascending_enums : Ascending (ofDocument d settings).account.enums := by
  have howners := List.pairwise_map.1 (pairwise_owners d settings)
  refine howners.filterMap _ fun a b hlt entry hentry entry' hentry' => ?_
  obtain ⟨e, -, rfl⟩ := Option.map_eq_some_iff.1 hentry
  obtain ⟨e', -, rfl⟩ := Option.map_eq_some_iff.1 hentry'
  exact hlt

theorem pairwise_loweredRecords : (ofDocument d settings).loweredRecords.Pairwise
    fun a b => a.owner.schema < b.owner.schema := by
  have howners := (ofDocument d settings).owner_loweredRecords
  have hascending := List.pairwise_map.1 (pairwise_owners d settings)
  rw [← List.pairwise_map (f := LoweredRecord.owner) (R := fun a b => a.schema < b.schema), howners]
  exact hascending.sublist List.filter_sublist

theorem ascending_records : Ascending (ofDocument d settings).account.records := by
  have hlength := (ofDocument d settings).forall₂_writes.length_eq
  refine ascending_iff_keys.2 ?_
  have hkeys : (ofDocument d settings).account.records.map (·.1) =
      (ofDocument d settings).loweredRecords.map fun record => record.owner.schema := by
    have hfst : (·.1) ∘ (fun p : LoweredRecord × RecordType => (p.1.owner.schema, p.2)) =
        (fun record => record.owner.schema) ∘ Prod.fst := rfl
    unfold account
    rw [List.map_map, hfst, ← List.map_map, List.map_fst_zip hlength.le]
  rw [hkeys, List.pairwise_map]
  exact pairwise_loweredRecords d settings

theorem pairwise_sources {record : LoweredRecord}
    (h : record ∈ (ofDocument d settings).loweredRecords) :
    (record.sources.map (·.name)).Pairwise (· < ·) := by
  obtain ⟨howner, hrole, -⟩ := of_mem_loweredRecords h
  have hshape := ((mem_owners d settings).1 howner).1
  obtain ⟨definition, hmem, hdetect⟩ := (mem_shapes_ofDocument d settings).1 hshape
  have hsorted := Json.sorted_object_iff.1 d.sorted_schemas
  exact Shape.pairwise_name_of_detect (hsorted.2 _ hmem)
    (hdetect.trans (Shape.eq_object_of_role hrole))

/-- **All properties of records are in the order of schemas and names.** -/
theorem pairwise_fields : (ofDocument d settings).fields.Pairwise fun p q =>
    Prod.Lex (· < ·) (· < ·) (p.1.owner.schema, p.2.source.name)
      (q.1.owner.schema, q.2.source.name) := by
  unfold fields
  rw [List.pairwise_flatMap]
  constructor
  · intro record hrecord
    have hnames := pairwise_sources d settings hrecord
    rw [LoweredRecord.sources, List.map_map, List.pairwise_map] at hnames
    rw [List.pairwise_map]
    exact hnames.imp fun hlt => .right _ hlt
  · refine (pairwise_loweredRecords d settings).imp fun hlt p hp q hq => ?_
    obtain ⟨field, -, rfl⟩ := List.mem_map.1 hp
    obtain ⟨field', -, rfl⟩ := List.mem_map.1 hq
    exact .left _ _ hlt

theorem pairwise_inline : (ofDocument d settings).account.inline.Pairwise fun p q =>
    Prod.Lex (· < ·) (· < ·) (p.1.1.owner.schema, p.1.2.source.name)
      (q.1.1.owner.schema, q.1.2.source.name) := by
  refine (pairwise_fields d settings).filterMap _ fun a b hlt entry hentry entry' hentry' => ?_
  obtain ⟨e, -, rfl⟩ := Option.map_eq_some_iff.1 hentry
  obtain ⟨e', -, rfl⟩ := Option.map_eq_some_iff.1 hentry'
  exact hlt

/-! ### What schemas own -/

theorem exists_compiledFrom {owner : Owner} (howner : owner ∈ (ofDocument d settings).owners) :
    ∃ declaration ∈ (ofDocument d settings).declarations,
      (ofDocument d settings).CompiledFrom owner.schema declaration := by
  obtain ⟨-, hdeclared, -⟩ := (mem_owners d settings).1 howner
  rw [← declarations_account]
  rcases Shape.role_of_isDeclared hdeclared with ⟨values, hrole⟩ | ⟨sources, hrole⟩
  · have hentry : (owner.schema, _) ∈ (ofDocument d settings).account.enums :=
      List.mem_filterMap.2 ⟨owner, howner, by rw [compileEnum?, hrole]; rfl⟩
    exact ⟨_, Account.mem_declarations.2 (.inl ⟨_, hentry, rfl⟩),
      compiledFrom_of_mem_enums d settings hentry⟩
  · have hmem : owner ∈ (ofDocument d settings).owners.filter Owner.isRecord :=
      List.mem_filter.2 ⟨howner, Owner.isRecord_iff.2 ⟨sources, hrole⟩⟩
    rw [← owner_loweredRecords] at hmem
    obtain ⟨record, hrecord, rfl⟩ := List.mem_map.1 hmem
    -- What is written from the lowered record stands beside it.
    have hlength := (ofDocument d settings).forall₂_writes.length_eq
    rw [← List.map_fst_zip hlength.le] at hrecord
    obtain ⟨⟨record, r⟩, hzip, rfl⟩ := List.mem_map.1 hrecord
    have hentry : (record.owner.schema, r) ∈ (ofDocument d settings).account.records :=
      List.mem_map.2 ⟨(record, r), hzip, rfl⟩
    exact ⟨_, Account.mem_declarations.2 (.inr (.inr ⟨_, hentry, rfl⟩)),
      compiledFrom_of_mem_records d settings hentry⟩

theorem filter_name_eq_singleton {declaration : Declaration}
    (h : declaration ∈ (ofDocument d settings).declarations) :
    (ofDocument d settings).declarations.filter (·.name == declaration.name) = [declaration] := by
  have hnodup := (ofDocument d settings).nodup_name_declarations (nodup_typeName_owners d settings)
  rw [← List.filterMap_eq_map] at hnodup
  exact filter_eq_singleton hnodup h rfl

end Document

end CompileContext

/-! ### Accounts -/

/-- Every entry of the account comes from what it is listed under, and each group is in the order of
the sources. -/
structure Account.IsOf (account : Account) (ctx : CompileContext) : Prop where
  enums : ∀ entry ∈ account.enums, ctx.CompiledFrom entry.1 (.enum entry.2)
  inline : ∀ entry ∈ account.inline, ctx.IsInlineOf entry.1 entry.2
  records : ∀ entry ∈ account.records, ctx.CompiledFrom entry.1 (.record entry.2)
  enumsAscend : Ascending account.enums
  /-- By the schema of the record, then by the name of the property. -/
  inlineAscend : account.inline.Pairwise fun p q => Prod.Lex (· < ·) (· < ·)
    (p.1.1.owner.schema, p.1.2.source.name) (q.1.1.owner.schema, q.1.2.source.name)
  recordsAscend : Ascending account.records

namespace CompileContext

/-- The only declaration of the schema's type name comes from the schema and has its kind. -/
def DeclaresAs (ctx : CompileContext) (declarations : List Declaration) (schema : String)
    (shape : Shape) : Prop :=
  ∃ declaration,
    declarations.filter (·.name == ctx.settings.naming.typeName schema) = [declaration] ∧
      declaration.sourceName = some schema ∧ shape.kind? = some declaration.kind

/-- An earlier schema that is to be declared has the same type name. -/
def IsSkipped (ctx : CompileContext) (schema : String) : Prop :=
  ∃ earlier shape, (earlier, shape) ∈ ctx.shapes ∧ shape.isDeclared = true ∧ earlier < schema ∧
    ctx.settings.naming.typeName earlier = ctx.settings.naming.typeName schema

/-- Declarations account for every schema. -/
structure AccountsFor (ctx : CompileContext) (models : CompiledModels) : Prop where
  /-- No name is used twice. -/
  names : (models.declarations.map (·.name)).Nodup
  /-- So by name nothing is lost. -/
  keyed : ∀ name declaration, models.snapshot.toMap.get? name = some declaration ↔
    declaration ∈ models.declarations ∧ declaration.name = name
  /-- A schema that is to be declared is declared, or skipped for an earlier one. -/
  schemas : ∀ schema shape, (schema, shape) ∈ ctx.shapes → shape.isDeclared = true →
    (ctx.DeclaresAs models.declarations schema shape ↔ ¬ ctx.IsSkipped schema)
  /-- All declarations are in an account that tells where they come from. -/
  order : ∃ account : Account, models.declarations = account.declarations ∧ account.IsOf ctx

theorem isOf_account (d : Document) (settings : Settings) :
    (ofDocument d settings).account.IsOf (ofDocument d settings) where
  enums _ := compiledFrom_of_mem_enums d settings
  inline _ := isInlineOf_of_mem_inline d settings
  records _ := compiledFrom_of_mem_records d settings
  enumsAscend := ascending_enums d settings
  inlineAscend := pairwise_inline d settings
  recordsAscend := ascending_records d settings

theorem shape_unique (d : Document) (settings : Settings) {schema : String} {shape shape' : Shape}
    (h : (schema, shape) ∈ (ofDocument d settings).shapes)
    (h' : (schema, shape') ∈ (ofDocument d settings).shapes) : shape = shape' := by
  have hkeys := (ascending_shapes d settings).nodup_keys
  rw [← lookup_eq_some_iff_mem hkeys] at h h'
  exact Option.some.inj (h.symm.trans h')

/-- A schema whose type name no earlier schema takes owns its declaration. -/
theorem mem_owners_of_not_isSkipped (d : Document) (settings : Settings) {schema : String}
    {shape : Shape} (hshape : (schema, shape) ∈ (ofDocument d settings).shapes)
    (hdeclared : shape.isDeclared = true) (hskipped : ¬ (ofDocument d settings).IsSkipped schema) :
    ⟨schema, settings.naming.typeName schema, shape⟩ ∈ (ofDocument d settings).owners := by
  refine (mem_owners d settings).2 ⟨hshape, hdeclared, rfl, ?_⟩
  intro entry hentry hentryDeclared hname
  refine String.not_lt.1 fun hlt => hskipped ?_
  exact ⟨entry.1, entry.2, hentry, hentryDeclared, hlt, hname⟩

/-- A schema is declared under its type name exactly if no earlier schema takes the name. -/
theorem declaresAs_iff (d : Document) (settings : Settings) {schema : String} {shape : Shape}
    (hshape : (schema, shape) ∈ (ofDocument d settings).shapes)
    (hdeclared : shape.isDeclared = true) :
    (ofDocument d settings).DeclaresAs (ofDocument d settings).declarations schema shape ↔
      ¬ (ofDocument d settings).IsSkipped schema := by
  constructor
  · rintro ⟨declaration, honly, hsource, -⟩ ⟨earlier, other, hother, hotherDeclared, hlt, hname⟩
    obtain ⟨owner, howner, hownerName, hle⟩ := exists_owner_le d settings hother hotherDeclared
    obtain ⟨declaration', hmem, hfrom⟩ := exists_compiledFrom d settings howner
    -- The declaration of the owner has the name too, so it is the only one, and it is not ours.
    have hfilter : declaration' ∈ [declaration] := by
      rw [← honly, List.mem_filter]
      have howned := ((mem_owners d settings).1 howner).2.2.1
      have hsame : declaration'.name = settings.naming.typeName schema :=
        hfrom.name.trans (howned.symm.trans (hownerName.trans hname))
      exact ⟨hmem, beq_iff_eq.2 hsame⟩
    cases List.mem_singleton.1 hfilter
    cases hsource.symm.trans hfrom.sourceName
    exact String.not_lt.2 hle hlt
  · intro hskipped
    have howner := mem_owners_of_not_isSkipped d settings hshape hdeclared hskipped
    obtain ⟨declaration, hmem, hfrom⟩ := exists_compiledFrom d settings howner
    have honly := filter_name_eq_singleton d settings hmem
    rw [hfrom.name] at honly
    obtain ⟨other, hother, hkind⟩ := hfrom.kind
    cases shape_unique d settings hother hshape
    exact ⟨declaration, honly, hfrom.sourceName, hkind⟩

end CompileContext

/-- **Every schema is accounted for exactly once.** -/
theorem compile_accountsFor {d : Document} {settings : Settings} {models : CompiledModels}
    (h : compile d settings = .ok models) :
    (CompileContext.ofDocument d settings).AccountsFor models := by
  obtain ⟨-, rfl⟩ := compile_eq_ok_iff.1 h
  have hnodup := (CompileContext.ofDocument d settings).nodup_name_declarations
    (CompileContext.nodup_typeName_owners d settings)
  constructor
  case names => exact hnodup
  case keyed => exact fun name declaration => get?_ofList hnodup
  case schemas =>
    exact fun schema shape hshape hdeclared =>
      CompileContext.declaresAs_iff d settings hshape hdeclared
  case order =>
    exact ⟨_, (CompileContext.ofDocument d settings).declarations_account.symm,
      CompileContext.isOf_account d settings⟩

/-- Two schemas of one type name, and a property with an enumeration in line. -/
def colorDocument : Document where
  members := [
    ("components", .object [("schemas", .object [
      ("Color", .object [("enum", .list [.text "red"]), ("type", .text "string")]),
      ("Paint", .object [("properties", .object [
        ("color", .object [("$ref", .text "#/components/schemas/Color")]),
        ("finish", .object [
          ("enum", .list [.text "gloss", .text "matt"]), ("type", .text "string")])])]),
      ("color", .object [("enum", .list [.text "blue"]), ("type", .text "string")])])])]
  sorted := by decide +kernel
  sections := by decide +kernel

/-- The second of the colors is skipped. -/
theorem compile_accountsFor_colors :
    let ctx := CompileContext.ofDocument colorDocument .default
    let models : CompiledModels := ⟨ctx.declarations, .default⟩
    compile colorDocument .default = .ok models ∧ ctx.AccountsFor models ∧
      ctx.IsSkipped "color" := by
  intro ctx models
  have hcompile : compile colorDocument .default = .ok models :=
    compile_eq_ok_iff.2 ⟨by decide +kernel, rfl⟩
  have hearlier : ("Color", Shape.enumeration ["red"]) ∈
      (CompileContext.ofDocument colorDocument .default).shapes := by
    decide +kernel
  have hname : NamingSettings.default.typeName "Color" =
      NamingSettings.default.typeName "color" := by
    decide +kernel
  exact ⟨hcompile, compile_accountsFor hcompile, "Color", _, hearlier, rfl, by decide, hname⟩

end ApiModels
