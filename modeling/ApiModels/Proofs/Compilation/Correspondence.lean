import ApiModels.Proofs.Compilation.Members
import ApiModels.Proofs.Shape.Denoted

/-!
# Members and what they come from

The members of a declaration correspond one to one to the document. A record has one property for
each key of the object that its schema denotes, in the order of the keys, and an enumeration has one
case for each literal but `null`, in the order of the literals (`compile_correspondsTo`).

Many names have the same identifier, so identifiers are made distinct by numbers. They stay distinct
when they are written, where a reserved word is put between backticks, since no identifier has a
backtick (`identifier_injOn`).
-/

namespace ApiModels

open Naming Swift

/-- Identifiers of which no two are the same, and none as they are written. -/
structure AreDistinctIdentifiers (names : List String) : Prop where
  identifier : ∀ name ∈ names, IsIdentifier name
  distinct : names.Nodup
  written : (names.map RenderProfile.default.identifier).Nodup

/-- The properties of a record correspond to the entries of an object with the members. -/
structure RecordType.HasPropertiesOf (r : RecordType) (members entries : List (String × Json)) :
    Prop where
  /-- The keys of the object are in order. -/
  ascending : Ascending entries
  properties : List.Forall₂ (fun entry p => p.wireName = entry.1 ∧
    (p.isOptional = true ↔ ¬ Json.Requires members entry.1)) entries r.properties
  named : ∀ p ∈ r.properties, IsVariantOf (memberName p.wireName) p.name
  identifiers : AreDistinctIdentifiers (r.properties.map (·.name))

/-- The cases of an enumeration correspond to the literals. -/
structure EnumType.HasCasesOf (e : EnumType) (items : List Json) : Prop where
  cases : List.Forall₂ (fun item c => item.literal? = some c.value) (items.filter (· ≠ .null))
    e.cases
  named : ∀ c ∈ e.cases, IsVariantOf (RenderProfile.default.caseName c.value) c.identifier
  identifiers : AreDistinctIdentifiers (e.cases.map (·.identifier))

/-- The schema denotes an object with the members, and these entries are its properties. -/
structure Json.HasProperties (schema : Json) (members entries : List (String × Json)) : Prop where
  denoted : schema.denoted = .object members
  properties : members.lookup "properties" = some (.object entries)

/-- The members of a declaration correspond to the schema or the property that it comes from. -/
inductive Declaration.CorrespondsTo (d : Document) : Declaration → Prop
  | record {r : RecordType} {schema : String} {definition : Json}
      {members entries : List (String × Json)} (hschema : (schema, definition) ∈ d.schemas)
      (hobject : definition.HasProperties members entries) (hsource : r.sourceName = some schema)
      (hproperties : r.HasPropertiesOf members entries) : CorrespondsTo d (.record r)
  | enum {e : EnumType} {schema : String} {definition : Json} {items : List Json}
      (hschema : (schema, definition) ∈ d.schemas) (hitems : definition.Enumerates items)
      (hsource : e.sourceName = some schema) (hcases : e.HasCasesOf items) :
    CorrespondsTo d (.enum e)
  | inline {e : EnumType} {schema : String} {definition : Json}
      {members entries : List (String × Json)} {key : String} {property : Json} {items : List Json}
      (hschema : (schema, definition) ∈ d.schemas)
      (hobject : definition.HasProperties members entries) (hkey : (key, property) ∈ entries)
      (hitems : property.HoldsEnumeration items)
      (hsource : e.sourceName = some (schema ++ "." ++ key)) (hcases : e.HasCasesOf items) :
    CorrespondsTo d (.enum e)

/-! ### Identifiers as they are written -/

theorem Swift.IsIdentifier.ne_quoted {name : String} (h : IsIdentifier name) (other : String) :
    name ≠ "\x60" ++ other ++ "\x60" := by
  rintro rfl
  exact h.not_mem (c := '\x60') (by decide) (by simp)

/-- **Identifiers that are written alike are the same.** -/
theorem identifier_injOn (profile : RenderProfile) {a b : String} (ha : IsIdentifier a)
    (hb : IsIdentifier b) (h : profile.identifier a = profile.identifier b) : a = b := by
  unfold RenderProfile.identifier at h
  by_cases hareserved : profile.language.reserved.contains a = true
  · by_cases hbreserved : profile.language.reserved.contains b = true
    · rw [if_pos hareserved, if_pos hbreserved] at h
      have hlist := congrArg String.toList h
      simp only [String.toList_append] at hlist
      exact String.toList_injective (List.append_cancel_left (List.append_cancel_right hlist))
    · rw [if_pos hareserved, if_neg hbreserved] at h
      exact absurd h.symm (hb.ne_quoted a)
  · by_cases hbreserved : profile.language.reserved.contains b = true
    · rw [if_neg hareserved, if_pos hbreserved] at h
      exact absurd h (ha.ne_quoted b)
    · rwa [if_neg hareserved, if_neg hbreserved] at h

/-- **Identifiers that are made distinct are written as distinct ones.** -/
theorem areDistinctIdentifiers_uniquify {names : List String}
    (h : ∀ name ∈ names, IsIdentifier name) : AreDistinctIdentifiers (uniquify names) := by
  have hidentifier := isIdentifier_of_mem_uniquify h
  have hdistinct := nodup_uniquify names
  refine ⟨hidentifier, hdistinct, hdistinct.map_on fun a ha b hb => ?_⟩
  exact identifier_injOn .default (hidentifier a ha) (hidentifier b hb)

/-! ### Records -/

namespace CompileContext

variable {d : Document} {ctx : CompileContext}

theorem hasPropertiesOf_recordFrom {record : LoweredRecord}
    {members entries : List (String × Json)}
    (hsources : record.sources = Shape.propertiesOf members entries)
    (hascending : Ascending entries) :
    (ctx.recordFrom record).HasPropertiesOf members entries := by
  have hidentifiers : AreDistinctIdentifiers ((ctx.recordFrom record).properties.map (·.name)) := by
    rw [map_name_recordFrom]
    refine areDistinctIdentifiers_uniquify (List.forall_mem_map.2 fun source _ => ?_)
    exact isIdentifier_memberName source.name
  refine ⟨hascending, ?_, isVariantOf_of_mem_properties record, hidentifiers⟩
  -- Both the name in the data and the mark are those of the source, and this is of the entry.
  have hmembers : (ctx.recordFrom record).properties.map (fun p => (p.wireName, p.isOptional)) =
      entries.map fun entry =>
        (entry.1, !(Shape.requiredNames members).contains entry.1) := by
    have hfields : (ctx.recordFrom record).properties.map (fun p => (p.wireName, p.isOptional)) =
        record.fields.map fun field => (field.source.name, !field.source.isRequired) :=
      map_properties_of_field (fun _ _ => rfl) record
    have hsplit : (fun field : LoweredField => (field.source.name, !field.source.isRequired)) =
        (fun source : PropertyShape Shape => (source.name, !source.isRequired)) ∘
          LoweredField.source := rfl
    rw [hfields, hsplit, ← List.map_map, ← LoweredRecord.sources, hsources, Shape.propertiesOf,
      List.map_map]
    rfl
  have hforall := List.forall₂_eq_eq_eq ▸ hmembers.symm
  rw [List.forall₂_map_left_iff, List.forall₂_map_right_iff] at hforall
  refine hforall.imp fun entry p heq => ?_
  obtain ⟨hname, hoptional⟩ := Prod.mk.inj heq
  refine ⟨hname.symm, ?_⟩
  rw [Json.requires_iff, ← hoptional, Bool.not_eq_true', Bool.not_eq_true]

/-! ### Enumerations -/

theorem cases_of_mem_declarations {e : EnumType} (h : .enum e ∈ ctx.declarations) :
    e.cases = ctx.enumCases (e.cases.map (·.value)) := by
  suffices hvalues : ∃ values, e.cases = ctx.enumCases values by
    obtain ⟨values, hcases⟩ := hvalues
    rw [hcases, map_value_enumCases]
  rw [declarations_eq, List.mem_append, List.mem_append] at h
  rcases h with (h | h) | h
  · obtain ⟨other, hother, heq⟩ := List.mem_map.1 h
    cases heq
    obtain ⟨owner, -, howner⟩ := List.mem_filterMap.1 hother
    unfold compileEnum? at howner
    split at howner
    · cases howner
      exact ⟨_, rfl⟩
    · cases howner
  · obtain ⟨other, hother, heq⟩ := List.mem_map.1 h
    cases heq
    obtain ⟨record, -, hrecord⟩ := List.mem_flatMap.1 hother
    obtain ⟨field, -, hfield⟩ := List.mem_filterMap.1 hrecord
    obtain ⟨-, values, -, rfl⟩ := declaredEnum?_eq_some_iff.1 hfield
    exact ⟨values, rfl⟩
  · obtain ⟨r, -, heq⟩ := List.mem_map.1 h
    cases heq

theorem hasCasesOf_of_literals {e : EnumType} {items : List Json}
    (hcases : e.cases = (ofDocument d .default).enumCases (e.cases.map (·.value)))
    (hvalues : e.cases.map (·.value) = Shape.literals items) : e.HasCasesOf items := by
  have hnamed : ∀ c ∈ e.cases,
      IsVariantOf (RenderProfile.default.caseName c.value) c.identifier := by
    rw [hcases]
    exact isVariantOf_of_mem_enumCases (ofDocument d .default) _
  have hidentifiers : AreDistinctIdentifiers (e.cases.map (·.identifier)) := by
    rw [hcases, map_identifier_enumCases]
    refine areDistinctIdentifiers_uniquify (List.forall_mem_map.2 fun value _ => ?_)
    exact isIdentifier_caseName value
  refine ⟨?_, hnamed, hidentifiers⟩
  have hliterals := Shape.forall₂_literals items
  rwa [← hvalues, List.forall₂_map_right_iff] at hliterals

/-! ### Declarations -/

theorem exists_hasProperties_of_role {schema : String} {shape : Shape} {record : LoweredRecord}
    (hshape : (schema, shape) ∈ (ofDocument d .default).shapes)
    (hrole : shape.role = .record record.sources) :
    ∃ definition members entries, (schema, definition) ∈ d.schemas ∧
      definition.HasProperties members entries ∧
      record.sources = Shape.propertiesOf members entries := by
  obtain ⟨definition, hmem, hdetect⟩ := (mem_shapes_ofDocument d .default).1 hshape
  have hobject := hdetect.trans (Shape.eq_object_of_role hrole)
  have hne : record.sources ≠ [] := by
    intro hnil
    rw [Shape.eq_object_of_role hrole, hnil] at hrole
    cases hrole
  obtain ⟨members, entries, hdenoted, hproperties, hsources⟩ :=
    Shape.exists_entries_of_detect hne hobject
  exact ⟨definition, members, entries, hmem, ⟨hdenoted, hproperties⟩, hsources⟩

theorem CompiledFrom.correspondsTo {schema : String} {declaration : Declaration}
    (h : (ofDocument d .default).CompiledFrom schema declaration) :
    declaration.CorrespondsTo d := by
  have hsource := h.sourceName
  cases h with
  | @enum shape values hshape hrole =>
    obtain ⟨definition, hmem, hdetect⟩ := (mem_shapes_ofDocument d .default).1 hshape
    obtain ⟨items, hitems, hliterals⟩ :=
      Shape.exists_enumerates_of_detect (hdetect.trans (Shape.eq_enumeration_of_role hrole))
    have hvalues := (ofDocument d .default).map_value_enumCases values
    have hcases : (ofDocument d .default).enumCases values = (ofDocument d .default).enumCases
        (((ofDocument d .default).enumCases values).map (·.value)) := by rw [hvalues]
    exact .enum hmem hitems hsource (hasCasesOf_of_literals hcases (hvalues.trans hliterals))
  | @record shape record r hshape hrole howner hrecord hwrites =>
    obtain ⟨definition, members, entries, hmem, hobject, hsources⟩ :=
      exists_hasProperties_of_role hshape hrole
    have hascending : Ascending entries := by
      have hpairwise := pairwise_sources d .default hrecord
      rw [hsources, Shape.propertiesOf, List.map_map] at hpairwise
      exact ascending_iff_keys.2 hpairwise
    have hwritten : ((ofDocument d .default).recordFrom record).HasPropertiesOf members entries :=
      hasPropertiesOf_recordFrom hsources hascending
    rw [hwrites] at hsource ⊢
    exact .record hmem hobject hsource
      ⟨hascending, hwritten.properties, hwritten.named, hwritten.identifiers⟩

theorem IsInlineOf.correspondsTo {p : LoweredRecord × LoweredField} {e : EnumType}
    (h : (ofDocument d .default).IsInlineOf p e)
    (hcases : e.cases = (ofDocument d .default).enumCases (e.cases.map (·.value))) :
    (Declaration.enum e).CorrespondsTo d := by
  obtain ⟨definition, members, entries, hmem, hobject, hsources⟩ :=
    exists_hasProperties_of_role h.shape h.role
  have hsource : p.2.source ∈ p.1.sources :=
    List.mem_map_of_mem ((ofDocument d .default).mem_fields.1 h.property).2
  rw [hsources] at hsource
  obtain ⟨⟨key, property⟩, hkey, heq⟩ := List.mem_map.1 hsource
  have hliterals := h.literals
  rw [← heq] at hliterals
  obtain ⟨items, hitems, hvalues⟩ := Shape.exists_holdsEnumeration_of_detect hliterals
  refine .inline hmem hobject hkey hitems ?_ (hasCasesOf_of_literals hcases hvalues)
  rw [h.source, ← heq]
  rfl

end CompileContext

/-- **Members correspond one to one to the document**: properties to the keys of an object, cases to
the literals but `null`, with identifiers that are distinct, also as they are written. -/
theorem compile_correspondsTo {d : Document} {models : CompiledModels}
    (h : compile d .default = .ok models) :
    ∀ declaration ∈ models.declarations, declaration.CorrespondsTo d := by
  obtain ⟨-, rfl⟩ := compile_eq_ok_iff.1 h
  intro declaration hmem
  rcases CompileContext.compiledFrom_or_isInlineOf d .default hmem with
    ⟨schema, hfrom⟩ | ⟨p, e, hinline, rfl⟩
  · exact hfrom.correspondsTo
  · exact hinline.correspondsTo (CompileContext.cases_of_mem_declarations hmem)

/-- A record that is combined of one object, with names that have the same identifier and one that
is a reserved word, and an enumeration in line. -/
def frameDocument : Document where
  members := [
    ("components", .object [("schemas", .object [
      ("Bike", .object [("allOf", .list [.object [
        ("properties", .object [
          ("class", .object [
            ("enum", .list [.text "a b", .text "A-B", .null, .number (.int 2)]),
            ("type", .text "string")]),
          ("frame size", .object [("type", .text "integer")]),
          ("frame-size", .object [("type", .text "string")])]),
        ("required", .list [.text "class"])]])])])])]
  sorted := by decide +kernel
  sections := by decide +kernel

open CompileContext in
theorem declarations_frameDocument : (ofDocument frameDocument .default).declarations = [
    .enum ⟨"GeneratedBikeClass", some "Bike.class", none,
      [⟨"a_b", "a b"⟩, ⟨"a_b_2", "A-B"⟩, ⟨"case_2", "2"⟩]⟩,
    .record ⟨"GeneratedBike", some "Bike", none, [
      ⟨"class", "class", "GeneratedBikeClass", false, none⟩,
      ⟨"frameSize", "frame size", "Int", true, none⟩,
      ⟨"frameSize_2", "frame-size", "String", true, none⟩], true⟩] := by
  have howners : (ofDocument frameDocument .default).owners = [
      ⟨"Bike", "GeneratedBike", .object [⟨"class", true, none, .enumeration ["a b", "A-B", "2"]⟩,
        ⟨"frame size", false, none, .primitive .integer none⟩,
        ⟨"frame-size", false, none, .primitive .string none⟩]⟩] := by decide +kernel
  unfold declarations recordsAndInline
  rw [howners]
  simp only [compileRecords, Shape.role, compileRecord, fieldTypes, walk]
  decide +kernel

/-- The members of the bike. -/
theorem compile_correspondsTo_frame :
    let ctx := CompileContext.ofDocument frameDocument .default
    compile frameDocument .default = .ok ⟨ctx.declarations, .default⟩ ∧
      ctx.declarations = [
        .enum ⟨"GeneratedBikeClass", some "Bike.class", none,
          [⟨"a_b", "a b"⟩, ⟨"a_b_2", "A-B"⟩, ⟨"case_2", "2"⟩]⟩,
        .record ⟨"GeneratedBike", some "Bike", none, [
          ⟨"class", "class", "GeneratedBikeClass", false, none⟩,
          ⟨"frameSize", "frame size", "Int", true, none⟩,
          ⟨"frameSize_2", "frame-size", "String", true, none⟩], true⟩] ∧
      (∀ declaration ∈ ctx.declarations, declaration.CorrespondsTo frameDocument) ∧
      RenderProfile.default.identifier "class" = "\x60class\x60" := by
  intro ctx
  have hcompile : compile frameDocument .default = .ok ⟨ctx.declarations, .default⟩ :=
    compile_eq_ok_iff.2 ⟨by decide +kernel, rfl⟩
  exact ⟨hcompile, declarations_frameDocument, compile_correspondsTo hcompile, by decide +kernel⟩

end ApiModels
