import ApiModels.Proofs.Change.Wire
import ApiModels.Proofs.Compilation.Account
import ApiModels.Proofs.Compilation.Identifiers

/-!
# Names in the data under a change

An identifier is made from a name in the data and does not tell it: several names have the same
identifier. What is compiled has for every case and every property the identifier that is made from
its name, up to a number (`isNamedFor_of_compile`). So under a change that is not major the name in
the data can be another one, but only one with the same identifier
(`DeclarationMap.KeepsNaming`). `severity_keeps` is all that such a change keeps, and
`severity_not_keeps_names` is such a change of a literal.
-/

namespace ApiModels

/-- Every case and every property has the identifier that is made from its name in the data, or that
with a number. -/
def Declaration.IsNamedFor (render : RenderProfile) : Declaration → Prop
  | .enum e => ∀ c ∈ e.cases, IsVariantOf (render.caseName c.value) c.identifier
  | .record r => ∀ p ∈ r.properties, IsVariantOf (memberName p.wireName) p.name

/-! ### Identifiers of a compilation -/

namespace CompileContext

variable (ctx : CompileContext)

theorem isVariantOf_of_mem_enumCases (values : List String) :
    ∀ c ∈ ctx.enumCases values,
      IsVariantOf (ctx.settings.render.caseName c.value) c.identifier := by
  -- The identifiers are what is left of the names of the literals when these are made distinct.
  refine isVariantOf_of_map_eq (f := EnumCase.identifier) ?_
  have hvalues : (ctx.enumCases values).map (ctx.settings.render.caseName ·.value) =
      values.map ctx.settings.render.caseName := by
    rw [← map_value_enumCases ctx values, List.map_map, map_value_enumCases]
    rfl
  rw [map_identifier_enumCases, hvalues]

variable {ctx}

theorem map_wireName_recordFrom (record : LoweredRecord) :
    (ctx.recordFrom record).properties.map (·.wireName) = record.sources.map (·.name) := by
  rw [LoweredRecord.sources, List.map_map]
  exact map_properties_of_field (fun _ _ => rfl) record

theorem isVariantOf_of_mem_properties (record : LoweredRecord) :
    ∀ p ∈ (ctx.recordFrom record).properties, IsVariantOf (memberName p.wireName) p.name := by
  refine isVariantOf_of_map_eq (f := Property.name) ?_
  have hwires : (ctx.recordFrom record).properties.map (memberName ·.wireName) =
      record.sources.map fun source => memberName source.name := by
    have hnames : (ctx.recordFrom record).properties.map (·.wireName) =
        record.sources.map (·.name) := map_wireName_recordFrom record
    have hmembers := congrArg (List.map memberName) hnames
    rwa [List.map_map, List.map_map] at hmembers
  rw [map_name_recordFrom, hwires]

theorem CompiledFrom.isNamedFor {schema : String} {declaration : Declaration}
    (h : ctx.CompiledFrom schema declaration) : declaration.IsNamedFor ctx.settings.render := by
  cases h with
  | enum => exact ctx.isVariantOf_of_mem_enumCases _
  | @record _ record r _ _ _ _ hwrites =>
    rw [hwrites]
    exact isVariantOf_of_mem_properties record

theorem isNamedFor_of_mem_declarations (d : Document) (settings : Settings)
    {declaration : Declaration} (h : declaration ∈ (ofDocument d settings).declarations) :
    declaration.IsNamedFor settings.render := by
  rw [← declarations_account] at h
  -- The declaration is the enumeration of a schema, one of a property, or a record.
  rcases Account.mem_declarations.1 h with ⟨entry, hentry, rfl⟩ | ⟨entry, hentry, rfl⟩ |
    ⟨entry, hentry, rfl⟩
  · exact (compiledFrom_of_mem_enums d settings hentry).isNamedFor
  · obtain ⟨p, -, hinline⟩ := List.mem_filterMap.1 hentry
    obtain ⟨e, he, rfl⟩ := Option.map_eq_some_iff.1 hinline
    obtain ⟨-, values, -, rfl⟩ := declaredEnum?_eq_some_iff.1 he
    exact isVariantOf_of_mem_enumCases _ values
  · exact (compiledFrom_of_mem_records d settings hentry).isNamedFor

end CompileContext

/-- **What is compiled has the identifiers of its names in the data.** -/
theorem isNamedFor_of_compile {d : Document} {settings : Settings} {models : CompiledModels}
    (h : compile d settings = .ok models) {name : String} {declaration : Declaration}
    (hget : models.snapshot.toMap.get? name = some declaration) :
    declaration.IsNamedFor settings.render := by
  obtain ⟨-, rfl⟩ := compile_eq_ok_iff.1 h
  have hnodup := (CompileContext.ofDocument d settings).nodup_name_declarations
    (CompileContext.nodup_typeName_owners d settings)
  exact CompileContext.isNamedFor_of_mem_declarations d settings ((get?_ofList hnodup).1 hget).1

/-! ### Names in the data under a change -/

/-- A case or property that is kept has before and after a name in the data from which its
identifier is made, if it is not followed by a number. -/
structure DeclarationMap.KeepsNaming (render : RenderProfile) (old new : DeclarationMap) :
    Prop where
  cases : ∀ type e f, old.get? type = some (.enum e) → new.get? type = some (.enum f) →
    ∀ c ∈ e.cases, ∃ c' ∈ f.cases, c'.identifier = c.identifier ∧
      IsVariantOf (render.caseName c.value) c.identifier ∧
      IsVariantOf (render.caseName c'.value) c.identifier
  properties : ∀ type r s, old.get? type = some (.record r) → new.get? type = some (.record s) →
    ∀ p ∈ r.properties, ∃ q ∈ s.properties, q.name = p.name ∧
      IsVariantOf (memberName p.wireName) p.name ∧ IsVariantOf (memberName q.wireName) p.name

theorem keepsNaming_of_keepsMembers {mark : String} {render : RenderProfile}
    {old new : DeclarationMap} (h : old.KeepsMembers mark new)
    (hold : ∀ name d, old.get? name = some d → d.IsNamedFor render)
    (hnew : ∀ name d, new.get? name = some d → d.IsNamedFor render) :
    old.KeepsNaming render new := by
  constructor
  case cases =>
    intro type e f he hf c hc
    obtain ⟨c', hc', hidentifier⟩ := h.case_of_enums he hf hc
    exact ⟨c', hc', hidentifier, hold type _ he c hc, hidentifier ▸ hnew type _ hf c' hc'⟩
  case properties =>
    intro type r s hr hs p hp
    obtain ⟨q, hq, hname⟩ := h.property_of_records hr hs hp
    exact ⟨q, hq, hname, hold type _ hr p hp, hname ▸ hnew type _ hs q hq⟩

/-- **What is kept by a change that is not major.** All cases and properties are kept, the first
property of each name with its type. Their names in the data are kept where these are the
identifiers; beyond that the diff does not look at them. Between two documents that are compiled
with the same settings a kept member has the identifier of both its names. -/
theorem severity_keeps {profile : RenderProfile} {old new : DeclarationMap}
    (h : (diff profile old new).severity ≠ .major) :
    old.KeepsMembers profile.optionalMark new ∧ old.KeepsOwnNames new ∧
      diff profile old.withoutWires new.withoutWires = diff profile old new ∧
      ∀ settings d d' models models', compile d settings = .ok models →
        compile d' settings = .ok models' → old = models.snapshot.toMap →
        new = models'.snapshot.toMap → old.KeepsNaming settings.render new := by
  have hkept := keepsMembers_of_severity h
  refine ⟨hkept, keepsOwnNames_of_keepsMembers hkept, diff_withoutWires profile old new, ?_⟩
  rintro settings d d' models models' hmodels hmodels' rfl rfl
  exact keepsNaming_of_keepsMembers hkept (fun _ _ => isNamedFor_of_compile hmodels)
    fun _ _ => isNamedFor_of_compile hmodels'

/-- A literal that is written with a hyphen. -/
def hyphenDocument : Document where
  members := [
    ("components", .object [("schemas", .object [
      ("Brake", .object [("enum", .list [.text "rim-brake"]), ("type", .text "string")])])])]
  sorted := by decide +kernel
  sections := by decide +kernel

/-- The literal with an underscore instead, and another one. -/
def underscoreDocument : Document where
  members := [
    ("components", .object [("schemas", .object [
      ("Brake", .object [
        ("enum", .list [.text "rim_brake", .text "disc"]), ("type", .text "string")])])])]
  sorted := by decide +kernel
  sections := by decide +kernel

/-- The declaration of the brakes. -/
def brakes (cases : List EnumCase) : List Declaration :=
  [.enum ⟨"GeneratedBrake", some "Brake", none, cases⟩]

theorem compile_hyphenDocument : compile hyphenDocument .default =
    .ok ⟨brakes [⟨"rim_brake", "rim-brake"⟩], .default⟩ := by
  decide +kernel

theorem compile_underscoreDocument : compile underscoreDocument .default =
    .ok ⟨brakes [⟨"rim_brake", "rim_brake"⟩, ⟨"disc", "disc"⟩], .default⟩ := by
  decide +kernel

/-- The brake keeps its case, and another one is added. -/
theorem severity_keeps_brake :
    let old := DeclarationMap.ofList (brakes [⟨"rim_brake", "rim-brake"⟩])
    let new := DeclarationMap.ofList (brakes [⟨"rim_brake", "rim_brake"⟩, ⟨"disc", "disc"⟩])
    (diff .default old new).severity ≠ .major ∧
      old.KeepsMembers RenderProfile.default.optionalMark new ∧ old.KeepsNaming .default new := by
  intro old new
  have hseverity : (diff .default old new).severity ≠ .major := by decide +kernel
  obtain ⟨hmembers, -, -, hnaming⟩ := severity_keeps hseverity
  exact ⟨hseverity, hmembers,
    hnaming _ _ _ _ _ compile_hyphenDocument compile_underscoreDocument rfl rfl⟩

/-- **Names in the data are not kept.** The change between two compiled documents is minor, and the
case has another literal; nothing is listed between two records of which the property has another
name in the data. -/
theorem severity_not_keeps_names :
    (∃ old new : CompiledModels, compile hyphenDocument .default = .ok old ∧
      compile underscoreDocument .default = .ok new ∧
      (diff .default old.snapshot.toMap new.snapshot.toMap).severity = .minor ∧
      ∃ e f, old.snapshot.toMap.get? "GeneratedBrake" = some (.enum e) ∧
        new.snapshot.toMap.get? "GeneratedBrake" = some (.enum f) ∧
        ∃ c ∈ e.cases, ∀ c' ∈ f.cases, c'.identifier = c.identifier → c'.value ≠ c.value) ∧
    let bike (gears : String) : RecordType :=
      ⟨"GeneratedBike", some "Bike", none, [⟨"gearCount", gears, "Int", true, none⟩], true⟩
    let old := DeclarationMap.ofList [.record (bike "gear-count")]
    let new := DeclarationMap.ofList [.record (bike "gear_count")]
    (diff .default old new).severity = .patch ∧
      ∃ p ∈ (bike "gear-count").properties, ∀ q ∈ (bike "gear_count").properties,
        q.name = p.name → q.wireName ≠ p.wireName := by
  refine ⟨⟨_, _, compile_hyphenDocument, compile_underscoreDocument, by decide +kernel,
    _, _, rfl, rfl, by decide⟩, by decide +kernel, by decide⟩

end ApiModels
