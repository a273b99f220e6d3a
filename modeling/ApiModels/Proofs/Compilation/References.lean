import ApiModels.Proofs.Compilation.Pruning
import ApiModels.Proofs.Pruning.Repeated

/-!
# References that a compilation follows

A compilation refuses a document with a reference to a missing schema, and a pruning keeps what the
kept schemas mention. Both go by the walk over the JSON of a schema, while the types of properties
come from its shape. `compile_followsReferences` says that the two agree: whatever is looked up for
the shapes of schemas was found by the walk, unless a schema hides it (`Json.Hides`).
-/

namespace ApiModels

/-- A schema of the document hides a reference to the target. -/
def Document.Hides (d : Document) (target : String) : Prop :=
  ∃ entry ∈ d.schemas, entry.2.Hides target

/-- The schemas that are looked up for those of a document, in a context of its compilation. -/
structure Document.FollowsReferences (d : Document) (ctx : CompileContext) : Prop where
  /-- What is looked up is found. -/
  found : ∀ entry ∈ ctx.shapes, ∀ name ∈ ctx.lookupsFor entry.2,
    (∃ shape, ctx.shapes.lookup name = some shape) ∨ d.Hides name
  /-- What is looked up for a kept schema is kept. -/
  kept : ∀ (p : Pruner), ∀ entry ∈ ctx.shapes, entry.1 ∈ (p.prune d).keptSchemas →
    ∀ name ∈ ctx.lookupsFor entry.2, name ∈ (p.prune d).keptSchemas ∨
      ∃ target, (p.prune d).document.Hides target

namespace Document

variable {d : Document} {settings : Settings}

theorem exists_lookup_shapes {name : String} (h : name ∈ d.schemas.map (·.1)) :
    ∃ shape, (CompileContext.ofDocument d settings).shapes.lookup name = some shape := by
  have hkeys : (CompileContext.ofDocument d settings).shapes.map (·.1) = d.schemas.map (·.1) := by
    unfold CompileContext.ofDocument CompileContext.ofGraph
    rw [List.map_map]
    rfl
  rw [← Option.isSome_iff_exists, isSome_lookup_iff_mem_keys, hkeys]
  exact h

theorem exists_schema_of_mem_shapes {entry : String × Shape}
    (hentry : entry ∈ (CompileContext.ofDocument d settings).shapes) {target : String}
    (htarget : entry.2.RefersTo target) :
    ∃ schema, (entry.1, schema) ∈ d.schemas ∧ (schema.Mentions target ∨ schema.Hides target) := by
  obtain ⟨schema, hschema, hshape⟩ := (CompileContext.mem_shapes_ofDocument d settings).1 hentry
  rw [← hshape] at htarget
  exact ⟨schema, hschema, Shape.mentions_or_hides_of_refersTo_detect htarget⟩

variable (hdangling : (ReferenceGraph.ofDocument d).dangling = [])

include hdangling

/-- The shapes of schemas refer to schemas, unless a schema hides the reference. -/
theorem mem_schemas_or_hides {entry : String × Shape}
    (hentry : entry ∈ (CompileContext.ofDocument d settings).shapes) {target : String}
    (htarget : entry.2.RefersTo target) : target ∈ d.schemas.map (·.1) ∨ d.Hides target := by
  obtain ⟨schema, hschema, hmentions | hhides⟩ := exists_schema_of_mem_shapes hentry htarget
  · exact .inl (ReferenceGraph.mem_names_of_mentions hdangling hschema hmentions)
  · exact .inr ⟨_, hschema, hhides⟩

theorem mem_keptSchemas_or_hides (p : Pruner) {entry : String × Shape}
    (hentry : entry ∈ (CompileContext.ofDocument d settings).shapes)
    (hkept : entry.1 ∈ (p.prune d).keptSchemas) {target : String}
    (htarget : entry.2.RefersTo target) :
    target ∈ (p.prune d).keptSchemas ∨ (p.prune d).document.Hides target := by
  obtain ⟨schema, hschema, hmentions | hhides⟩ := exists_schema_of_mem_shapes hentry htarget
  · have hname := ReferenceGraph.mem_names_of_mentions hdangling hschema hmentions
    have hclosed := p.isClosed_keptSchemas d entry.1 schema target hschema
      (List.contains_iff_mem.2 hkept) hmentions hname
    exact .inl (List.contains_iff_mem.1 hclosed)
  · have hneeded := ((p.mem_keptSchemas_prune d).1 hkept).2
    exact .inr ⟨_, Pruner.mem_schemas_prune.2 ⟨hschema, hneeded⟩, hhides⟩

theorem followsReferences : d.FollowsReferences (.ofDocument d settings) := by
  have hfound : ∀ entry ∈ (CompileContext.ofDocument d settings).shapes,
      ∀ target, entry.2.RefersTo target → target ∈ d.schemas.map (·.1) ∨ d.Hides target :=
    fun _ hentry _ htarget => mem_schemas_or_hides hdangling hentry htarget
  constructor
  case found =>
    intro entry hentry name hname
    have hschema := CompileContext.forall_mem_lookupsFor
      (fun entry hentry _ => hfound entry hentry) (hfound entry hentry) name hname
    exact hschema.imp_left exists_lookup_shapes
  case kept =>
    intro p entry hentry hkept name hname
    -- Once a kept schema hides a reference, nothing is said about what is looked up from there.
    have hkeeps : ∀ entry ∈ (CompileContext.ofDocument d settings).shapes,
        (entry.1 ∈ (p.prune d).keptSchemas ∨ ∃ target, (p.prune d).document.Hides target) →
        ∀ target, entry.2.RefersTo target →
          target ∈ (p.prune d).keptSchemas ∨ ∃ target, (p.prune d).document.Hides target := by
      rintro entry hentry (hkept | hhides) target htarget
      · exact (mem_keptSchemas_or_hides hdangling p hentry hkept htarget).imp_right fun h => ⟨_, h⟩
      · exact .inr hhides
    exact CompileContext.forall_mem_lookupsFor hkeeps (hkeeps entry hentry (.inl hkept)) name hname

end Document

/-- **Shapes refer to what the walk over a schema finds**, unless the schema hides it. So what a
compilation looks up is there, and is kept with the schema for which it is looked up. -/
theorem compile_followsReferences :
    (∀ (schema : Json) (target : String), (Shape.detect schema).RefersTo target →
      target ∈ schema.referenceNames ∨ schema.Hides target) ∧
    ∀ (d : Document) (settings : Settings) (models : CompiledModels),
      compile d settings = .ok models → d.FollowsReferences (.ofDocument d settings) := by
  constructor
  · intro schema target htarget
    rw [Json.mem_referenceNames]
    exact Shape.mentions_or_hides_of_refersTo_detect htarget
  · intro d settings models hcompile
    exact Document.followsReferences (compile_eq_ok_iff.1 hcompile).1

/-- An order with a list of lines, which is an alias of its own. -/
def orderDocument : Document where
  members := [
    ("components", .object [("schemas", .object [
      ("Line", .object [
        ("properties", .object [("count", .object [("type", .text "integer")])]),
        ("type", .text "object")]),
      ("Lines", .object [
        ("items", .object [("$ref", .text "#/components/schemas/Line")]),
        ("type", .text "array")]),
      ("Order", .object [
        ("properties", .object [
          ("lines", .object [("$ref", .text "#/components/schemas/Lines")])]),
        ("type", .text "object")])])]),
    ("paths", .object [("/orders", .object [("$ref", .text "#/components/schemas/Order")])])]
  sorted := by decide +kernel
  sections := by decide +kernel

theorem shapes_orderDocument : (CompileContext.ofDocument orderDocument .default).shapes = [
    ("Line", .object [⟨"count", false, none, .primitive .integer none⟩]),
    ("Lines", .array (.reference "Line")),
    ("Order", .object [⟨"lines", false, none, .reference "Lines"⟩])] := by
  decide +kernel

/-- Through the list, the lines are looked up for the order and kept with it. -/
theorem compile_followsReferences_order :
    let p : Pruner := ⟨.ofList ["/orders"], []⟩
    let ctx := CompileContext.ofDocument orderDocument .default
    let order : Shape := .object [⟨"lines", false, none, .reference "Lines"⟩]
    compile orderDocument .default = .ok ⟨ctx.declarations, .default⟩ ∧
      ("Order", order) ∈ ctx.shapes ∧ "Line" ∈ ctx.lookupsFor order ∧
      "Line" ∈ (p.prune orderDocument).keptSchemas := by
  intro p ctx order
  have hcompile : compile orderDocument .default = .ok ⟨ctx.declarations, .default⟩ :=
    compile_eq_ok_iff.2 ⟨by decide +kernel, rfl⟩
  have horder : ("Order", order) ∈ ctx.shapes := by
    rw [shapes_orderDocument]
    simp [order]
  have hlines : ctx.shapes.lookup "Lines" = some (.array (.reference "Line")) := by
    rw [shapes_orderDocument]
    rfl
  have hline : "Line" ∈ ctx.lookupsFor order := by
    refine List.mem_flatMap.2 ⟨_, List.mem_cons_self, ?_⟩
    refine CompileContext.mem_lookups_of_through hlines (by decide) List.not_mem_nil ?_
    rw [CompileContext.lookups]
    exact CompileContext.mem_lookups_reference
  have hkept : "Order" ∈ (p.prune orderDocument).keptSchemas := by
    have hpath : ("/orders", Json.object [("$ref", .text "#/components/schemas/Order")]) ∈
        orderDocument.paths := List.mem_cons_self
    rw [p.mem_keptSchemas_prune]
    refine ⟨by decide +kernel, .path hpath (by decide +kernel) (.reference rfl ?_) ?_⟩
    all_goals decide +kernel
  have hplain : ∀ entry ∈ orderDocument.schemas, entry.2.HasPlainProperties := by
    have hschemas : (Json.object orderDocument.schemas).HasPlainProperties := by
      simp [orderDocument, Document.schemas, Document.schemas?, Document.component?,
        Document.field?, Json.get?, Json.members?, Json.hasPlainProperties_object_iff,
        Json.hasPlainProperties_text, Reference.of?, List.lookup_cons]
    exact (Json.hasPlainProperties_object_iff.1 hschemas).2
  have hfollows := compile_followsReferences.2 orderDocument .default _ hcompile
  obtain hkept | ⟨target, hhides⟩ := hfollows.kept p _ horder hkept "Line" hline
  · exact ⟨hcompile, horder, hline, hkept⟩
  · obtain ⟨entry, hentry, hhides⟩ := hhides
    exact absurd hhides ((hplain entry (Pruner.mem_schemas_prune.1 hentry).1).not_hides target)

/-- A record with a property whose reference stands beside a string `$ref`. -/
def hidingSchema : Json :=
  .object [("properties", .object [
    ("$ref", .text "x"), ("a", .object [("$ref", .text "#/components/schemas/Missing")])])]

/-- The document with that schema only. -/
def hidingDocument : Document where
  members := [("components", .object [("schemas", .object [("R", hidingSchema)])])]
  sorted := by decide +kernel
  sections := by decide +kernel

/-- The shape refers to a schema that the walk does not find: the document is compiled, although
what is looked up for it is missing. -/
theorem compile_hides_missing :
    let ctx := CompileContext.ofDocument hidingDocument .default
    (Shape.detect hidingSchema).RefersTo "Missing" ∧ "Missing" ∉ hidingSchema.referenceNames ∧
      compile hidingDocument .default = .ok ⟨ctx.declarations, .default⟩ ∧
      ("R", Shape.detect hidingSchema) ∈ ctx.shapes ∧
      "Missing" ∈ ctx.lookupsFor (Shape.detect hidingSchema) ∧
      ctx.shapes.lookup "Missing" = none := by
  intro ctx
  have hshape : Shape.detect hidingSchema = .object [
      ⟨"$ref", false, none, .unknown "schema is not an object"⟩,
      ⟨"a", false, none, .reference "Missing"⟩] := by decide +kernel
  have hrefers : (Shape.detect hidingSchema).RefersTo "Missing" := by
    rw [hshape]
    exact .property (List.mem_cons_of_mem _ List.mem_cons_self) .reference
  have hlookup : "Missing" ∈ ctx.lookupsFor (Shape.detect hidingSchema) := by
    rw [hshape]
    refine List.mem_flatMap.2 ⟨_, List.mem_cons_of_mem _ List.mem_cons_self, ?_⟩
    exact CompileContext.mem_lookups_reference
  refine ⟨hrefers, ?_, compile_eq_ok_iff.2 ⟨?_, rfl⟩, ?_, hlookup, ?_⟩
  all_goals decide +kernel

end ApiModels
