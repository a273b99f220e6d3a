import ApiModels.Proofs.Compilation.Account
import ApiModels.Proofs.Compilation.Description
import ApiModels.Proofs.Compilation.Identifiers
import ApiModels.Proofs.Swift.Recovered
import ApiModels.Proofs.Swift.RoundTrip

/-!
# Compiled declarations in their source

By default whatever is compiled can be written so that it is read back, its source names apart: the
names of types, members and cases are identifiers and those of members are distinct, the types are
of one word, and the descriptions are doc texts (`isWritable_of_mem_declarations`). The name of a
source is written as it stands in the document. So the declarations are recovered exactly if each
source name is one that a doc line can name: not empty, in one line and without a blank at either
end (`compile_recovers_iff`). A schema without a name is not recovered
(`compile_not_recovers_nameless`).
-/

namespace ApiModels

open Swift (IsDocText IsSourceName IsTypeText)
open Text (isBlank)

theorem isTypeText_render {t : FieldType} (h : ∀ name, t.named? = some name → IsGenerated name) :
    IsTypeText (t.render .default) := by
  induction t with
  | sequence item ih =>
    have hitem := ih h
    have hlist : ((FieldType.sequence item).render .default).toList =
        '[' :: (item.render .default).toList ++ [']'] := by
      simp [FieldType.render, RenderProfile.listOf, RenderProfile.default]
    refine ⟨fun hnil => ?_, fun c hc => ?_⟩
    · rw [hnil] at hlist
      cases hlist
    · rw [hlist, List.mem_append, List.mem_cons, List.mem_singleton] at hc
      rcases hc with (rfl | hc) | rfl
      · decide
      · exact hitem.allowed c hc
      · decide
  | named name =>
    -- No character that a type cannot have is one of an identifier.
    have hidentifier := (h name rfl).isIdentifier
    have hallowed : ∀ c ∈ ['=', '?', '"', '/', '\x7b', '\x7d'],
        Naming.isIdentifierChar c = false := by
      intro c hc
      simp only [List.mem_cons, List.not_mem_nil, or_false] at hc
      rcases hc with rfl | rfl | rfl | rfl | rfl | rfl <;> rfl
    refine ⟨fun hnil => ?_, fun c hc => ⟨hidentifier.not_blank hc, fun hmem => ?_⟩⟩
    · obtain ⟨c, rest, hlist, -⟩ := hidentifier
      rw [show name = "" from hnil] at hlist
      cases hlist
    · exact hidentifier.not_mem (hallowed c hmem) hc
  | _ => decide

namespace CompileContext

variable {d : Document}

theorem areDocs_of_sourceName {source : String} (hsource : IsSourceName source)
    {description : Option String} (hdescription : ∀ text ∈ description, IsDocText text) :
    Swift.AreDocs isBlank (some source) description := by
  refine ⟨?_, hdescription, fun hnone => nomatch hnone⟩
  rintro _ ⟨⟩
  exact hsource

theorem isDocText_description (ctx : CompileContext) (schema : String) :
    ∀ text ∈ ctx.description schema, IsDocText text := by
  intro text htext
  obtain ⟨raw, -, htext⟩ := Option.bind_eq_some_iff.1 htext
  obtain ⟨_, -, hclean⟩ := Option.bind_eq_some_iff.1 htext
  exact isDocText_of_cleanDescription hclean

theorem isIdentifier_of_mem_enumCases {values : List String} :
    ∀ c ∈ (ofDocument d .default).enumCases values, Swift.IsIdentifier c.identifier := by
  intro c hc
  have hmem := List.mem_map_of_mem (f := EnumCase.identifier) hc
  rw [map_identifier_enumCases] at hmem
  refine isIdentifier_of_mem_uniquify (fun name hname => ?_) _ hmem
  obtain ⟨literal, -, rfl⟩ := List.mem_map.1 hname
  exact isIdentifier_caseName literal

theorem isWritable_of_mem_properties {record : LoweredRecord}
    (h : record ∈ (ofDocument d .default).loweredRecords) :
    ∀ p ∈ ((ofDocument d .default).recordFrom record).properties, p.IsWritable := by
  intro p hp
  have hname := List.mem_map_of_mem (f := Property.name) hp
  have htype := List.mem_map_of_mem (f := Property.type) hp
  rw [map_name_recordFrom] at hname
  rw [map_type_recordFrom] at htype
  constructor
  case name =>
    refine isIdentifier_of_mem_uniquify (fun name hname => ?_) _ hname
    obtain ⟨source, -, rfl⟩ := List.mem_map.1 hname
    exact isIdentifier_memberName source.name
  case type =>
    obtain ⟨type, hmem, htype⟩ := List.mem_map.1 htype
    obtain ⟨field, hfield, rfl⟩ := List.mem_map.1 hmem
    rw [← htype]
    exact isTypeText_render ((isGenerated_of_mem_loweredRecords h).2 field hfield)
  case description =>
    intro text htext
    obtain ⟨entry, -, rfl⟩ := List.mem_map.1 hp
    obtain ⟨raw, -, hclean⟩ := Option.bind_eq_some_iff.1 htext
    exact isDocText_of_cleanDescription hclean

theorem isWritable_recordFrom {record : LoweredRecord}
    (h : record ∈ (ofDocument d .default).loweredRecords)
    (hsource : IsSourceName record.owner.schema) :
    ((ofDocument d .default).recordFrom record).IsWritable isBlank where
  name := (isGenerated_of_mem_loweredRecords h).1.isIdentifier
  docs := areDocs_of_sourceName hsource (isDocText_description _ _)
  properties := isWritable_of_mem_properties h
  distinct := by
    rw [map_name_recordFrom]
    exact nodup_uniquify _

/-- By default the declaration of a schema can be written, if the schema can be named. -/
theorem CompiledFrom.isWritable {schema : String} {declaration : Declaration}
    (h : (ofDocument d .default).CompiledFrom schema declaration) (hsource : IsSourceName schema) :
    declaration.IsWritable isBlank := by
  cases h with
  | enum =>
    exact ⟨(isGenerated_typeName schema).isIdentifier,
      areDocs_of_sourceName hsource (isDocText_description _ _), isIdentifier_of_mem_enumCases⟩
  | @record shape record r _ _ howner hrecord hwrites =>
    have hschema : IsSourceName record.owner.schema := by
      rw [howner]
      exact hsource
    have hwritable := isWritable_recordFrom hrecord hschema
    rw [hwrites]
    exact ⟨hwritable.name, hwritable.docs, hwritable.properties, hwritable.distinct⟩

/-- **By default everything that is compiled can be written**, if its source can be named. -/
theorem isWritable_of_mem_declarations {declaration : Declaration}
    (h : declaration ∈ (ofDocument d .default).declarations)
    (hsource : ∀ source ∈ declaration.sourceName, IsSourceName source) :
    declaration.IsWritable isBlank := by
  rw [← declarations_account] at h
  rcases Account.mem_declarations.1 h with ⟨entry, hentry, rfl⟩ | ⟨entry, hentry, rfl⟩ |
    ⟨entry, hentry, rfl⟩
  · have hfrom := compiledFrom_of_mem_enums d .default hentry
    exact hfrom.isWritable (hsource _ hfrom.sourceName)
  · obtain ⟨p, hp, hmap⟩ := List.mem_filterMap.1 hentry
    obtain ⟨e, he, rfl⟩ := Option.map_eq_some_iff.1 hmap
    obtain ⟨-, values, -, rfl⟩ := declaredEnum?_eq_some_iff.1 he
    have howner := isGenerated_of_mem_loweredRecords ((ofDocument d .default).mem_fields.1 hp).1
    exact ⟨(isGenerated_inlineName howner.1 p.2.source.name).isIdentifier,
      areDocs_of_sourceName (hsource _ rfl) fun _ hnone => (nomatch hnone),
      isIdentifier_of_mem_enumCases⟩
  · have hfrom := compiledFrom_of_mem_records d .default hentry
    exact hfrom.isWritable (hsource _ hfrom.sourceName)

theorem recovers_iff (d : Document) :
    Swift.declarations (Swift.source .default (ofDocument d .default).declarations) =
        (ofDocument d .default).declarations ↔
      ∀ declaration ∈ (ofDocument d .default).declarations,
        ∀ source ∈ declaration.sourceName, IsSourceName source := by
  constructor
  · intro hrecovers declaration hdeclaration
    rw [← hrecovers] at hdeclaration
    exact Swift.isSourceName_of_mem_declarations hdeclaration
  · intro hsources
    have hwritable : ∀ declaration ∈ (ofDocument d .default).declarations,
        declaration.IsWritable isBlank :=
      fun declaration h => isWritable_of_mem_declarations h (hsources declaration h)
    rw [Swift.declarations_source_eq_foldl hwritable, Swift.finish_foldl_sourceLines hwritable]

end CompileContext

/-- **What is compiled is recovered from its source exactly if all its source names can be named**,
whatever the other names, literals and descriptions of the document are. -/
theorem compile_recovers_iff {d : Document} {models : CompiledModels}
    (h : compile d .default = .ok models) :
    Swift.declarations models.source = models.declarations ↔
      ∀ declaration ∈ models.declarations, ∀ source ∈ declaration.sourceName,
        IsSourceName source := by
  obtain ⟨-, rfl⟩ := compile_eq_ok_iff.1 h
  exact CompileContext.recovers_iff d

/-- A schema with a description in two lines and with literals that have to be escaped. -/
def doorDocument : Document where
  members := [
    ("components", .object [("schemas", .object [
      ("Door", .object [
        ("description", .text " Open\nor \x7b closed "),
        ("enum", .list [.text "\"open\"", .text "1//\n", .text ""]),
        ("type", .text "string")])])])]
  sorted := by decide +kernel
  sections := by decide +kernel

/-- The door is recovered. -/
theorem compile_recovers_door :
    let models : CompiledModels :=
      ⟨(CompileContext.ofDocument doorDocument .default).declarations, .default⟩
    compile doorDocument .default = .ok models ∧
      Swift.declarations models.source = models.declarations := by
  intro models
  have hcompile : compile doorDocument .default = .ok models :=
    compile_eq_ok_iff.2 ⟨by decide +kernel, rfl⟩
  have hshapes : (CompileContext.ofDocument doorDocument .default).shapes =
      [("Door", .enumeration ["\"open\"", "1//\n", ""])] := by
    decide +kernel
  refine ⟨hcompile, (compile_recovers_iff hcompile).2 fun declaration hmem source hsource => ?_⟩
  rcases CompileContext.compiledFrom_or_isInlineOf doorDocument .default hmem with
    ⟨schema, hfrom⟩ | ⟨p, e, hinline, -⟩
  · obtain ⟨shape, hshape, -⟩ := hfrom.kind
    rw [hshapes] at hshape
    cases List.mem_singleton.1 hshape
    cases hfrom.sourceName.symm.trans hsource
    decide
  · -- The only schema has no properties.
    have hshape := hinline.shape
    have hrole := hinline.role
    rw [hshapes] at hshape
    rw [(Prod.mk.inj (List.mem_singleton.1 hshape)).2] at hrole
    cases hrole

/-- A schema without a name. -/
def namelessDocument : Document where
  members := [
    ("components", .object [("schemas", .object [
      ("", .object [("enum", .list [.text "a"]), ("type", .text "string")])])])]
  sorted := by decide +kernel
  sections := by decide +kernel

/-- A schema without a name is compiled, but it is not recovered. -/
theorem compile_not_recovers_nameless :
    ∃ models, compile namelessDocument .default = .ok models ∧
      Swift.declarations models.source ≠ models.declarations := by
  refine ⟨_, compile_eq_ok_iff.2 ⟨by decide +kernel, rfl⟩, fun hrecovers => ?_⟩
  have hshapes : (CompileContext.ofDocument namelessDocument .default).shapes =
      [("", .enumeration ["a"])] := by
    decide +kernel
  have howner : ⟨"", NamingSettings.default.typeName "", .enumeration ["a"]⟩ ∈
      (CompileContext.ofDocument namelessDocument .default).owners := by
    refine (CompileContext.mem_owners namelessDocument .default).2 ⟨?_, rfl, rfl, ?_⟩
    · rw [hshapes]
      exact List.mem_singleton_self _
    · intro entry hentry _ _
      rw [hshapes] at hentry
      cases List.mem_singleton.1 hentry
      exact String.le_refl _
  obtain ⟨declaration, hmem, hfrom⟩ :=
    CompileContext.exists_compiledFrom namelessDocument .default howner
  have hsources := (CompileContext.recovers_iff namelessDocument).1 hrecovers
  exact (hsources declaration hmem _ hfrom.sourceName).ne_empty rfl

end ApiModels
