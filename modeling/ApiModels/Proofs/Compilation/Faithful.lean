import ApiModels.Proofs.Compilation.Account

/-!
# What the types of properties name

Where the type of a property is built from a declaration, exactly one declaration has that name. If
the shape of the property leads to a schema, it is the declaration of that schema and not of another
one with the same type name; if the shape holds an enumeration, it is that enumeration, and no other
property has a type of that name (`compile_isFaithful`).
-/

namespace ApiModels

namespace CompileContext

/-- A declaration is what a property means whose type names it. -/
structure IsFaithful (ctx : CompileContext) (declarations : List Declaration)
    (p : LoweredRecord × LoweredField) (declaration : Declaration) : Prop where
  /-- No other declaration has the name. -/
  only : declarations.filter (·.name == declaration.name) = [declaration]
  /-- The property leads to a schema, or holds an enumeration. -/
  origin : (∃ schema, ctx.LeadsTo p.2.source.shape schema) ∨
    ∃ values, p.2.source.shape.HoldsInline values
  /-- The declaration comes from the schema to which the property leads. -/
  reference : ∀ schema, ctx.LeadsTo p.2.source.shape schema →
    declaration.sourceName = some schema ∧ ctx.CompiledFrom schema declaration
  /-- The declaration is the enumeration that the property holds, and the property is the only one
  whose type names it. -/
  inline : ∀ values, p.2.source.shape.HoldsInline values →
    ∃ e, declaration = .enum e ∧ e.cases.map (·.value) = values ∧
      e.sourceName = some (p.1.owner.schema ++ "." ++ p.2.source.name) ∧
      ctx.fields.filter (fun q => q.2.type.named? == some e.name) = [p]

section Document

variable {d : Document} {settings : Settings} {p : LoweredRecord × LoweredField}

theorem lowers_of_mem_fields {ctx : CompileContext} (h : p ∈ ctx.fields) :
    ctx.Lowers p.1.owner p.2.source p.2.type := by
  obtain ⟨hrecord, hfield⟩ := ctx.mem_fields.1 h
  exact (of_mem_loweredRecords hrecord).2.2 p.2 hfield

/-- **Only the property that declares an enumeration names it.** -/
theorem filter_named?_eq_singleton (hp : p ∈ (ofDocument d settings).fields) {e : EnumType}
    (he : (ofDocument d settings).declaredEnum? p.1.owner p.2 = some e) :
    (ofDocument d settings).fields.filter (fun q => q.2.type.named? == some e.name) = [p] := by
  have hdeclared := (ofDocument d settings).nodup_declared (nodup_typeName_owners d settings)
  rw [← filterMap_declaredEnum?_fields, List.map_filterMap] at hdeclared
  obtain ⟨hnodup, -, hdisjoint⟩ := List.nodup_append.1 hdeclared
  have hkey : ((ofDocument d settings).declaredEnum? p.1.owner p.2).map (·.name) = some e.name := by
    rw [he, Option.map_some]
  -- So it is enough that a property has a type of this name exactly if it declares it.
  rw [← filter_eq_singleton hnodup hp hkey]
  refine List.filter_congr fun q hq => ?_
  rw [Bool.eq_iff_iff, beq_iff_eq, beq_iff_eq]
  constructor
  · intro hnamed
    rcases (lowers_of_mem_fields hq).origin hnamed with
      ⟨schema, -, howned⟩ | ⟨values, hinline, hname⟩
    · -- No schema owns the name of an enumeration in line.
      obtain ⟨owner, howner, -, htype⟩ := mem_owners_schema howned
      have hmem : e.name ∈ (ofDocument d settings).fields.filterMap fun q =>
          ((ofDocument d settings).declaredEnum? q.1.owner q.2).map (·.name) :=
        List.mem_filterMap.2 ⟨p, hp, hkey⟩
      exact absurd htype.symm (hdisjoint _ hmem _ (List.mem_map_of_mem howner))
    · -- A property that holds an enumeration and names it declares it.
      rw [hname] at hnamed ⊢
      have hq : (ofDocument d settings).declaredEnum? q.1.owner q.2 =
          some ((ofDocument d settings).enumOf q.1.owner q.2.source values) :=
        declaredEnum?_eq_some_iff.2 ⟨hnamed, values, hinline, rfl⟩
      rw [hq]
      rfl
  · intro hname
    obtain ⟨e', he', hname⟩ := Option.map_eq_some_iff.1 hname
    rw [← hname]
    exact (declaredEnum?_eq_some_iff.1 he').1

/-- **Whatever the type of a property names is declared**, and it is what the property means. -/
theorem exists_isFaithful (hp : p ∈ (ofDocument d settings).fields) {name : String}
    (hname : p.2.type.named? = some name) :
    ∃ declaration, declaration.name = name ∧
      (ofDocument d settings).IsFaithful (ofDocument d settings).declarations p declaration := by
  rcases (lowers_of_mem_fields hp).origin hname with
    ⟨schema, hleads, howned⟩ | ⟨values, hinline, rfl⟩
  · obtain ⟨owner, howner, rfl, rfl⟩ := mem_owners_schema howned
    obtain ⟨declaration, hmem, hfrom⟩ := exists_compiledFrom d settings howner
    have howned := ((mem_owners d settings).1 howner).2.2.1
    refine ⟨declaration, hfrom.name.trans howned.symm, ?_⟩
    constructor
    case only => exact filter_name_eq_singleton d settings hmem
    case origin => exact .inl ⟨_, hleads⟩
    case reference =>
      intro schema hleads'
      cases hleads.unique hleads'
      exact ⟨hfrom.sourceName, hfrom⟩
    case inline => exact fun values hinline => absurd hinline hleads.not_holdsInline
  · let e := (ofDocument d settings).enumOf p.1.owner p.2.source values
    have he : (ofDocument d settings).declaredEnum? p.1.owner p.2 = some e :=
      declaredEnum?_eq_some_iff.2 ⟨hname, values, hinline, rfl⟩
    have hentry : (p, e) ∈ (ofDocument d settings).account.inline :=
      List.mem_filterMap.2 ⟨p, hp, by rw [he, Option.map_some]⟩
    have hmem : .enum e ∈ (ofDocument d settings).declarations := by
      rw [← declarations_account]
      exact Account.mem_declarations.2 (.inr (.inl ⟨_, hentry, rfl⟩))
    refine ⟨.enum e, rfl, ?_⟩
    constructor
    case only => exact filter_name_eq_singleton d settings hmem
    case origin => exact .inr ⟨values, hinline⟩
    case reference => exact fun schema hleads => absurd hinline hleads.not_holdsInline
    case inline =>
      intro values' hinline'
      cases hinline.unique hinline'
      exact ⟨_, rfl, map_value_enumCases _ values, rfl, filter_named?_eq_singleton hp he⟩

end Document

end CompileContext

/-- **Types are closed, and they name what the properties mean.** -/
theorem compile_isFaithful {d : Document} {settings : Settings} {models : CompiledModels}
    (h : compile d settings = .ok models) :
    let ctx := CompileContext.ofDocument d settings
    List.Forall₂ (fun record r => ctx.Writes record r ∧
        ∀ field ∈ record.fields, ∀ name, field.type.named? = some name →
          ∃ declaration, declaration.name = name ∧
            ctx.IsFaithful models.declarations (record, field) declaration)
      ctx.loweredRecords (models.declarations.filterMap Declaration.record?) := by
  intro ctx
  obtain ⟨-, rfl⟩ := compile_eq_ok_iff.1 h
  have hwrites := List.forall₂_iff_zip.1 ctx.forall₂_writes
  refine List.forall₂_iff_zip.2 ⟨hwrites.1, fun {record r} hmem => ⟨hwrites.2 hmem, ?_⟩⟩
  intro field hfield name hname
  have hp : (record, field) ∈ ctx.fields :=
    ctx.mem_fields.2 ⟨(List.of_mem_zip hmem).1, hfield⟩
  exact CompileContext.exists_isFaithful hp hname

/-- A brush with a list of tints, which stand for colors, with a color that is skipped as there is
an earlier one, and with a shape that is written in line. -/
def brushDocument : Document where
  members := [
    ("components", .object [("schemas", .object [
      ("Brush", .object [("properties", .object [
        ("second", .object [("$ref", .text "#/components/schemas/color")]),
        ("shape", .object [
          ("enum", .list [.text "flat", .text "round"]), ("type", .text "string")]),
        ("tints", .object [
          ("items", .object [("$ref", .text "#/components/schemas/Tint")]),
          ("type", .text "array")])])]),
      ("Color", .object [("enum", .list [.text "red"]), ("type", .text "string")]),
      ("Tint", .object [("$ref", .text "#/components/schemas/Color")]),
      ("color", .object [("enum", .list [.text "blue"]), ("type", .text "string")])])])]
  sorted := by decide +kernel
  sections := by decide +kernel

open CompileContext in
theorem declarations_brushDocument : (ofDocument brushDocument .default).declarations = [
    .enum ⟨"GeneratedColor", some "Color", none, [⟨"red", "red"⟩]⟩,
    .enum ⟨"GeneratedBrushShape", some "Brush.shape", none,
      [⟨"flat", "flat"⟩, ⟨"round", "round"⟩]⟩,
    .record ⟨"GeneratedBrush", some "Brush", none, [
      ⟨"second", "second", "SAOAIJSONValue", true, none⟩,
      ⟨"shape", "shape", "GeneratedBrushShape", true, none⟩,
      ⟨"tints", "tints", "[GeneratedColor]", true, none⟩], false⟩] := by
  have howners : (ofDocument brushDocument .default).owners = [
      ⟨"Brush", "GeneratedBrush", .object [⟨"second", false, none, .reference "color"⟩,
        ⟨"shape", false, none, .enumeration ["flat", "round"]⟩,
        ⟨"tints", false, none, .array (.reference "Tint")⟩]⟩,
      ⟨"Color", "GeneratedColor", .enumeration ["red"]⟩] := by decide +kernel
  have htint : (ofDocument brushDocument .default).shapes.lookup "Tint" =
      some (.reference "Color") := by decide +kernel
  have hcolor : (ofDocument brushDocument .default).shapes.lookup "Color" =
      some (.enumeration ["red"]) := by decide +kernel
  -- The walk through the alias is the only one that is not settled by its first step.
  have htints : (ofDocument brushDocument .default).walk [] (.reference "Tint") = _ :=
    (walk_reference_of_not_mem htint (by decide) List.not_mem_nil).trans
      (walk_reference_of_isDeclared hcolor rfl)
  unfold declarations recordsAndInline
  rw [howners]
  simp only [compileRecords, Shape.role, compileRecord, fieldTypes, htints, walk]
  decide +kernel

/-- The types of the brush. -/
theorem compile_isFaithful_brush :
    let ctx := CompileContext.ofDocument brushDocument .default
    let models : CompiledModels := ⟨ctx.declarations, .default⟩
    compile brushDocument .default = .ok models ∧
      models.declarations.map Declaration.name =
        ["GeneratedColor", "GeneratedBrushShape", "GeneratedBrush"] ∧
      (models.declarations.filterMap Declaration.record?).map
          (fun r => r.properties.map fun p => (p.wireName, p.type)) =
        [[("second", "SAOAIJSONValue"), ("shape", "GeneratedBrushShape"),
          ("tints", "[GeneratedColor]")]] ∧
      List.Forall₂ (fun record r => ctx.Writes record r ∧
          ∀ field ∈ record.fields, ∀ name, field.type.named? = some name →
            ∃ declaration, declaration.name = name ∧
              ctx.IsFaithful models.declarations (record, field) declaration)
        ctx.loweredRecords (models.declarations.filterMap Declaration.record?) := by
  intro ctx models
  have hcompile : compile brushDocument .default = .ok models :=
    compile_eq_ok_iff.2 ⟨by decide +kernel, rfl⟩
  refine ⟨hcompile, ?_, ?_, compile_isFaithful hcompile⟩
  all_goals
    simp only [models, ctx, declarations_brushDocument]
    rfl

end ApiModels
