import ApiModels.Proofs.Change.Part
import ApiModels.Proofs.Compilation.Equatable
import ApiModels.Proofs.Compilation.Owners
import ApiModels.Proofs.Compilation.Provenance
import ApiModels.Proofs.Compilation.Restriction
import ApiModels.Proofs.Pruning.Exact
import ApiModels.Shape.Equality
import Mathlib.Data.List.Flatten

/-!
# Compiling a pruned document

Pruning keeps with a schema all that the schema refers to. So what is compiled from a kept schema
does not change if the others are removed, and a pruned document is compiled to the declarations of
the whole that come from kept schemas (`compile_prune`), as long as no declaration gives way to
another one with its name.
-/

namespace ApiModels

/-! ### Plain compilations -/

namespace CompileContext

/-- A compilation with the default names and types in which no declaration gives way to another. -/
structure IsPlain (ctx : CompileContext) : Prop where
  naming : ctx.settings.naming = .default
  render : ctx.settings.render = .default
  typeNames : ctx.HasDistinctTypeNames
  inline : ctx.DeclaresInline

section Graph

variable {g : ReferenceGraph} {settings : Settings} {keep : String → Bool}

/-- Whether the declaration of a name comes from a kept schema. -/
def comesFrom (ctx : CompileContext) (keep : String → Bool) (name : String) : Bool :=
  (ctx.sourceOf? name).any keep

theorem isGenerated_of_mem_owners (hplain : (ofGraph g settings).IsPlain) {owner : Owner}
    (howner : owner ∈ (ofGraph g settings).owners) : IsGenerated owner.typeName := by
  have hnaming : settings.naming = .default := hplain.naming
  rw [owners_ofGraph g settings hplain.typeNames, hnaming] at howner
  obtain ⟨entry, -, rfl⟩ := List.mem_map.1 howner
  exact isGenerated_typeName entry.1

/-- The declaration that the type of a property is built from is one of its owner, or one of a kept
schema. -/
theorem named?_declaredType {ctx : CompileContext} (hclosed : ctx.ShapesClosed keep) {owner : Owner}
    (hshape : (owner.schema, owner.shape) ∈ ctx.shapes) (hkeep : keep owner.schema = true)
    {property : PropertyShape Shape} (hproperty : property ∈ owner.sources) {name : String}
    (h : (ctx.declaredType owner property).named? = some name) :
    name ∈ ctx.inlineNames owner ∨
      ∃ other ∈ ctx.owners, keep other.schema = true ∧ other.typeName = name := by
  unfold declaredType at h
  cases hstop : (ctx.walk [] property.shape).stop with
  | type type =>
    simp only [hstop, FieldType.named?_inSequences] at h
    obtain ⟨target, htarget, howned⟩ := exists_ownedName?_of_walk hclosed
      (fun target htarget => hclosed (owner.schema, owner.shape) hshape hkeep target
        (refersTo_of_mem_sources hproperty htarget)) hstop h
    obtain ⟨other, hother, rfl, hname⟩ := mem_owners_schema howned
    exact .inr ⟨other, hother, htarget, hname⟩
  | inlineEnum values =>
    simp only [hstop, FieldType.named?_inSequences] at h
    cases h
    have henum : ctx.inlineEnum? owner property = some
        ⟨inlineName owner.typeName property.name, some (owner.schema ++ "." ++ property.name), none,
          ctx.enumCases values⟩ := by
      rw [inlineEnum?, hstop]
    exact .inl (List.mem_map.2 ⟨_, List.mem_filterMap.2 ⟨property, hproperty, henum⟩, rfl⟩)

theorem exists_source_of_mem_properties {ctx : CompileContext} {owner : Owner} {r : RecordType}
    (hr : ctx.record? owner = some r) {p : Property} (hp : p ∈ r.properties) :
    ∃ source ∈ owner.sources,
      p.type = (ctx.declaredType owner source).render ctx.settings.render := by
  unfold record? at hr
  cases hrole : owner.shape.role with
  | record sources =>
    rw [hrole] at hr
    cases hr
    obtain ⟨⟨source, name, type⟩, hmem, rfl⟩ := List.mem_map.1 hp
    have htype := (List.of_mem_zip (List.of_mem_zip hmem).2).2
    obtain ⟨source', hsource', rfl⟩ := List.mem_map.1 htype
    exact ⟨source', (Owner.sources_of_role hrole).symm ▸ hsource', rfl⟩
  | _ =>
    rw [hrole] at hr
    cases hr

/-! ### Declarations of a restricted graph -/

variable (hplain : (ofGraph g settings).IsPlain) (hclosed : (ofGraph g settings).ShapesClosed keep)

include hplain

theorem hasDistinctNames_ofGraph : (ofGraph g settings).HasDistinctNames :=
  hasDistinctNames _ (nodup_typeNames g settings hplain.typeNames) hplain.inline

theorem comesFrom_of_mem {owner : Owner} (howner : owner ∈ (ofGraph g settings).owners)
    {name : String} (hname : name ∈ (ofGraph g settings).declaredNames owner) :
    (ofGraph g settings).comesFrom keep name = keep owner.schema := by
  have hnodup := nodup_declaredNames _ (hasDistinctNames_ofGraph hplain)
  rw [comesFrom, sourceOf?_of_mem _ hnodup howner hname]
  rfl

include hclosed

/-- All that the type of a property can be built from has the form of a generated name. -/
theorem isGenerated_of_declaredType {owner : Owner} (howner : owner ∈ (ofGraph g settings).owners)
    (hkeep : keep owner.schema = true) {property : PropertyShape Shape}
    (hproperty : property ∈ owner.sources) {name : String}
    (h : ((ofGraph g settings).declaredType owner property).named? = some name) :
    IsGenerated name := by
  have hshape := mem_shapes_of_mem_owners g settings hplain.typeNames howner
  rcases named?_declaredType hclosed hshape hkeep hproperty h with hinline | hnamed
  · exact isGenerated_of_mem_inlineNames (isGenerated_of_mem_owners hplain howner) hinline
  · obtain ⟨target, htarget, -, rfl⟩ := hnamed
    exact isGenerated_of_mem_owners hplain htarget

/-- The records of kept schemas refer to records of kept schemas only. -/
theorem recordsClosed_comesFrom : RecordsClosed ((ofGraph g settings).comesFrom keep)
    ((ofGraph g settings).owners.filterMap (ofGraph g settings).record?) := by
  have hrender : (ofGraph g settings).settings.render = .default := hplain.render
  have hself : ∀ owner : Owner, owner.typeName ∈ (ofGraph g settings).declaredNames owner :=
    fun owner => List.mem_cons_self
  intro r hr hkeep p hp s hs hname
  obtain ⟨owner, howner, hrecord⟩ := List.mem_filterMap.1 hr
  obtain ⟨other, hother, hrecord'⟩ := List.mem_filterMap.1 hs
  rw [(name_of_record? hrecord).1, comesFrom_of_mem hplain howner (hself owner)] at hkeep
  have hshape := mem_shapes_of_mem_owners g settings hplain.typeNames howner
  have hgenerated : IsGenerated s.name := by
    rw [(name_of_record? hrecord').1]
    exact isGenerated_of_mem_owners hplain hother
  obtain ⟨source, hsource, htype⟩ := exists_source_of_mem_properties hrecord hp
  rw [htype, hrender] at hname
  -- The name is found in the text of a type, and only a declared type has such a name in its text.
  have hbuilt : ∀ name, ((ofGraph g settings).declaredType owner source).named? = some name →
      IsGenerated name :=
    fun _ => isGenerated_of_declaredType hplain hclosed howner hkeep hsource
  have hnamed := named?_of_innermostType hgenerated hbuilt hname.symm
  rcases named?_declaredType hclosed hshape hkeep hsource hnamed with hinline | hnamed
  · rw [comesFrom_of_mem hplain howner (List.mem_cons_of_mem _ hinline)]
    exact hkeep
  · obtain ⟨target, htarget, htargetKeep, htargetName⟩ := hnamed
    rw [← htargetName, comesFrom_of_mem hplain htarget (hself target)]
    exact htargetKeep

omit hclosed in
/-- What the kept owners declare in the restricted graph is what comes from kept schemas. -/
theorem flatMap_owners_restrict {α : Type} {declared declared' : Owner → List α} {name : α → String}
    (hnames : ∀ owner, ∀ a ∈ declared owner, name a ∈ (ofGraph g settings).declaredNames owner)
    (heq : ∀ owner, (owner.schema, owner.shape) ∈ (ofGraph g settings).shapes →
      keep owner.schema = true → declared' owner = declared owner) :
    (ofGraph (g.restrict keep) settings).owners.flatMap declared' =
      ((ofGraph g settings).owners.flatMap declared).filter fun a =>
        (ofGraph g settings).comesFrom keep (name a) := by
  rw [owners_restrict g settings keep hplain.typeNames, filter_flatMap fun owner howner a ha =>
    comesFrom_of_mem hplain howner (hnames owner a ha)]
  refine List.flatMap_congr fun owner howner => ?_
  obtain ⟨hmem, hkeep⟩ := List.mem_filter.1 howner
  exact heq owner (mem_shapes_of_mem_owners g settings hplain.typeNames hmem) hkeep

theorem inlineEnums_restrict : (ofGraph (g.restrict keep) settings).owners.flatMap
      (ofGraph (g.restrict keep) settings).inlineEnums =
    ((ofGraph g settings).owners.flatMap (ofGraph g settings).inlineEnums).filter fun e =>
      (ofGraph g settings).comesFrom keep e.name := by
  have hagrees := agreesOn_restrict g settings keep hplain.typeNames
  refine flatMap_owners_restrict hplain (fun owner e he => ?_) fun owner hshape hkeep => ?_
  · exact List.mem_cons_of_mem _ (List.mem_map_of_mem he)
  · exact hagrees.inlineEnums_eq hclosed hshape hkeep

omit hclosed in
theorem compileEnum?_restrict : (ofGraph (g.restrict keep) settings).owners.filterMap
      (ofGraph (g.restrict keep) settings).compileEnum? =
    ((ofGraph g settings).owners.filterMap (ofGraph g settings).compileEnum?).filter fun e =>
      (ofGraph g settings).comesFrom keep e.name := by
  have hagrees := agreesOn_restrict g settings keep hplain.typeNames
  rw [List.filterMap_eq_flatMap_toList, List.filterMap_eq_flatMap_toList]
  refine flatMap_owners_restrict hplain (fun owner e he => ?_) fun owner _ hkeep => ?_
  · rw [(name_of_compileEnum? (Option.mem_toList.1 he)).1]
    exact List.mem_cons_self
  · rw [hagrees.compileEnum?_eq hkeep]

theorem record?_restrict : (ofGraph (g.restrict keep) settings).owners.filterMap
      (ofGraph (g.restrict keep) settings).record? =
    ((ofGraph g settings).owners.filterMap (ofGraph g settings).record?).filter fun r =>
      (ofGraph g settings).comesFrom keep r.name := by
  have hagrees := agreesOn_restrict g settings keep hplain.typeNames
  rw [List.filterMap_eq_flatMap_toList, List.filterMap_eq_flatMap_toList]
  refine flatMap_owners_restrict hplain (fun owner r hr => ?_) fun owner hshape hkeep => ?_
  · rw [(name_of_record? (Option.mem_toList.1 hr)).1]
    exact List.mem_cons_self
  · rw [hagrees.record?_eq hclosed hshape hkeep]

theorem hasDistinctNames_restrict : (ofGraph (g.restrict keep) settings).HasDistinctNames := by
  have hnodup := hasDistinctNames_ofGraph hplain
  have hinline := inlineEnums_restrict hplain hclosed
  refine hnodup.sublist (List.Sublist.append ?_ ?_)
  · unfold inlineNames
    rw [← List.map_flatMap, ← List.map_flatMap, hinline]
    exact List.filter_sublist.map _
  · rw [owners_restrict g settings keep hplain.typeNames]
    exact List.filter_sublist.map _

/-- **The declarations of a restricted graph are those that come from kept schemas.** -/
theorem declarations_restrict : (ofGraph (g.restrict keep) settings).declarations =
    (ofGraph g settings).declarations.filter fun d =>
      (ofGraph g settings).comesFrom keep d.name := by
  have hnodup := hasDistinctNames_ofGraph hplain
  have hnodup' := hasDistinctNames_restrict hplain hclosed
  have hrecords := filter_propagateEquatable (recordsClosed_comesFrom hplain hclosed)
  rw [declarations_of_free hnodup, declarations_of_free hnodup', compileEnum?_restrict hplain,
    inlineEnums_restrict hplain hclosed, record?_restrict hplain hclosed, ← hrecords,
    List.filter_append, List.filter_append, List.filter_map, List.filter_map, List.filter_map]
  rfl

end Graph

/-- Shape detection finds only what the walk over a schema finds. So what is closed under mentions
is closed under the references in shapes. -/
theorem shapesClosed_of_isClosed {g : ReferenceGraph} {settings : Settings} {keep : String → Bool}
    (hclosed : g.IsClosed keep) (hdangling : g.dangling = [])
    (hplain : ∀ entry ∈ g.schemas, entry.2.HasPlainProperties) :
    (ofGraph g settings).ShapesClosed keep := by
  intro entry hentry hkeep target htarget
  obtain ⟨⟨source, schema⟩, hschema, rfl⟩ := List.mem_map.1 hentry
  have hmentions := Shape.mentions_of_refersTo_detect (hplain _ hschema) htarget
  have hname := ReferenceGraph.mem_names_of_mentions hdangling hschema hmentions
  exact hclosed source schema target hschema hkeep hmentions hname

end CompileContext

/-! ### Pruned documents -/

namespace Pruner

variable (p : Pruner) (d : Document)

theorem mem_keptSchemas_prune {name : String} :
    name ∈ (p.prune d).keptSchemas ↔ name ∈ d.schemas.map (·.1) ∧ p.Needed d name :=
  (p.splits_schemas d).keeps name

theorem isClosed_keptSchemas :
    (ReferenceGraph.ofDocument d).IsClosed (p.prune d).keptSchemas.contains := by
  intro source schema target hschema hkeep hmentions hname
  rw [List.contains_iff_mem, mem_keptSchemas_prune] at hkeep ⊢
  exact ⟨hname, .schema hkeep.2 hschema hmentions hname⟩

theorem ofDocument_prune : ReferenceGraph.ofDocument (p.prune d).document =
    (ReferenceGraph.ofDocument d).restrict (p.prune d).keptSchemas.contains := by
  unfold ReferenceGraph.ofDocument ReferenceGraph.restrict
  rw [schemas_prune, keptSchemas]
  refine congrArg _ (List.filter_congr fun entry hentry => ?_)
  have hname : entry.1 ∈ d.schemas.map (·.1) := List.mem_map_of_mem hentry
  rw [Bool.eq_iff_iff, List.contains_iff_mem, List.contains_iff_mem, mem_keptSchemas_prune,
    mem_reachable]
  exact ⟨fun h => ⟨hname, h⟩, fun h => h.2⟩

/-- The dangling references of a pruned document are those that stand in a kept schema. -/
theorem dangling_ofDocument_prune : (ReferenceGraph.ofDocument (p.prune d).document).dangling =
    (ReferenceGraph.ofDocument d).dangling.filter fun edge =>
      (p.prune d).keptSchemas.contains edge.1 := by
  rw [p.ofDocument_prune d]
  exact ReferenceGraph.dangling_restrict (p.isClosed_keptSchemas d)

variable {d} (hdangling : (ReferenceGraph.ofDocument d).dangling = [])

include hdangling

theorem dangling_prune : (ReferenceGraph.ofDocument (p.prune d).document).dangling = [] := by
  rw [p.dangling_ofDocument_prune d, hdangling, List.filter_nil]

theorem declarations_prune {settings : Settings}
    (hplain : (CompileContext.ofDocument d settings).IsPlain)
    (hproperties : ∀ entry ∈ d.schemas, entry.2.HasPlainProperties) :
    (CompileContext.ofDocument (p.prune d).document settings).declarations =
      (CompileContext.ofDocument d settings).declarations.filter fun declaration =>
        (CompileContext.ofDocument d settings).comesFrom (p.prune d).keptSchemas.contains
          declaration.name := by
  have hclosed : (CompileContext.ofDocument d settings).ShapesClosed
      (p.prune d).keptSchemas.contains :=
    CompileContext.shapesClosed_of_isClosed (p.isClosed_keptSchemas d) hdangling hproperties
  rw [CompileContext.ofDocument, p.ofDocument_prune d,
    CompileContext.declarations_restrict hplain hclosed]
  rfl

end Pruner

/-- The models that are left of the whole if only the declarations from some schemas are kept. -/
structure CompiledModels.IsPartBy (ctx : CompileContext) (keep : String → Bool)
    (part whole : CompiledModels) : Prop where
  profile : part.profile = whole.profile
  declarations : part.declarations = whole.declarations.filter fun d => ctx.comesFrom keep d.name
  /-- Every declaration has a schema that it comes from. -/
  sources : ∀ d ∈ whole.declarations, ∃ schema, ctx.sourceOf? d.name = some schema ∧
    d.StemsFrom schema
  /-- The diff to the part only removes types. -/
  removes : ∀ profile, (diff profile whole.snapshot.toMap part.snapshot.toMap).OnlyRemovesTypes
  /-- The diff from the part only adds types. -/
  adds : ∀ profile, (diff profile part.snapshot.toMap whole.snapshot.toMap).OnlyAddsTypes

/-- **A pruned document is compiled to the declarations that come from kept schemas.** -/
theorem compile_prune (p : Pruner) (d : Document) (settings : Settings) {full : CompiledModels}
    (hplain : (CompileContext.ofDocument d settings).IsPlain)
    (hproperties : ∀ entry ∈ d.schemas, entry.2.HasPlainProperties)
    (hfull : compile d settings = .ok full) :
    ∃ pruned, compile (p.prune d).document settings = .ok pruned ∧
      pruned.IsPartBy (.ofDocument d settings) (p.prune d).keptSchemas.contains full := by
  obtain ⟨hdangling, rfl⟩ := compile_eq_ok_iff.1 hfull
  have hdeclarations := p.declarations_prune hdangling hplain hproperties
  have hnames := CompileContext.hasDistinctNames_ofGraph hplain
  have hnodup := CompileContext.nodup_names_declarations hnames
  have hpart := isPartOf_filter hnodup fun declaration =>
    (CompileContext.ofDocument d settings).comesFrom (p.prune d).keptSchemas.contains
      declaration.name
  refine ⟨_, compile_eq_ok_iff.2 ⟨p.dangling_prune hdangling, rfl⟩, ?_⟩
  rw [hdeclarations]
  constructor
  case profile => rfl
  case declarations => rfl
  case sources => exact fun _ => CompileContext.exists_sourceOf?_of_mem_declarations hnames
  case removes => exact fun profile => onlyRemovesTypes_diff profile hpart
  case adds => exact fun profile => onlyAddsTypes_diff profile hpart

/-- A pet with a kind that is written in line and a toy, and a shop to which no path leads. -/
def petDocument : Document where
  members := [
    ("components", .object [("schemas", .object [
      ("Pet", .object [
        ("properties", .object [
          ("kind", .object [("enum", .list [.text "cat", .text "dog"]), ("type", .text "string")]),
          ("toy", .object [("$ref", .text "#/components/schemas/Toy")])]),
        ("type", .text "object")]),
      ("Shop", .object [("enum", .list [.text "open"]), ("type", .text "string")]),
      ("Toy", .object [("enum", .list [.text "ball"]), ("type", .text "string")])])]),
    ("paths", .object [("/pets", .object [("$ref", .text "#/components/schemas/Pet")])])]
  sorted := by
    simp only [Json.Sorted, Json.SortedMembers, Json.SortedItems, ascending_iff_keys]
    decide +kernel
  sections := by decide +kernel

section Pets

open CompileContext

theorem owners_petDocument : (ofDocument petDocument .default).owners = [
    ⟨"Pet", "GeneratedPet", .object [⟨"kind", false, none, .enumeration ["cat", "dog"]⟩,
      ⟨"toy", false, none, .reference "Toy"⟩]⟩,
    ⟨"Shop", "GeneratedShop", .enumeration ["open"]⟩,
    ⟨"Toy", "GeneratedToy", .enumeration ["ball"]⟩] := by decide +kernel

theorem isPlain_petDocument : (ofDocument petDocument .default).IsPlain := by
  have htypes : (ofDocument petDocument .default).HasDistinctTypeNames := by
    unfold HasDistinctTypeNames
    decide +kernel
  have hnodup : ((ofDocument petDocument .default).owners.map (·.typeName)).Nodup :=
    nodup_typeNames (.ofDocument petDocument) .default htypes
  refine ⟨rfl, rfl, htypes, (declaresInline_iff _ hnodup).2 ?_⟩
  rw [HasDistinctNames, owners_petDocument]
  simp only [List.flatMap_cons, List.flatMap_nil, inlineNames, inlineEnums, Owner.sources,
    Shape.role, inlineEnum?, walk, List.filterMap]
  decide +kernel

theorem declarations_petDocument : (ofDocument petDocument .default).declarations = [
    .enum ⟨"GeneratedShop", some "Shop", none, [⟨"open", "open"⟩]⟩,
    .enum ⟨"GeneratedToy", some "Toy", none, [⟨"ball", "ball"⟩]⟩,
    .enum ⟨"GeneratedPetKind", some "Pet.kind", none, [⟨"cat", "cat"⟩, ⟨"dog", "dog"⟩]⟩,
    .record ⟨"GeneratedPet", some "Pet", none, [
      ⟨"kind", "kind", "GeneratedPetKind", true, none⟩,
      ⟨"toy", "toy", "GeneratedToy", true, none⟩], true⟩] := by
  unfold declarations recordsAndInline
  rw [owners_petDocument]
  simp only [compileRecords, Shape.role, compileRecord, fieldTypes, walk]
  decide +kernel

theorem comesFrom_petDocument {keep : String → Bool} :
    let ctx := ofDocument petDocument .default
    ctx.comesFrom keep "GeneratedShop" = keep "Shop" ∧
      ctx.comesFrom keep "GeneratedToy" = keep "Toy" ∧
      ctx.comesFrom keep "GeneratedPetKind" = keep "Pet" ∧
      ctx.comesFrom keep "GeneratedPet" = keep "Pet" := by
  intro ctx
  have hsources : ["GeneratedShop", "GeneratedToy", "GeneratedPetKind", "GeneratedPet"].map
      ctx.sourceOf? = [some "Shop", some "Toy", some "Pet", some "Pet"] := by
    unfold ctx sourceOf?
    rw [owners_petDocument]
    simp only [List.map_cons, List.find?, declaredNames, inlineNames, inlineEnums, Owner.sources,
      Shape.role, inlineEnum?, walk, List.filterMap]
    decide +kernel
  simp only [List.map_cons, List.map_nil, List.cons.injEq, and_true] at hsources
  obtain ⟨hshop, htoy, hkind, hpet⟩ := hsources
  simp only [comesFrom, hshop, htoy, hkind, hpet, Option.any_some, and_self]

theorem reachable_petDocument :
    Pruner.reachable ⟨.ofList ["/pets"], []⟩ petDocument = ["Pet", "Toy"] := by
  have hseeds : Pruner.seeds ⟨.ofList ["/pets"], []⟩ petDocument = ["Pet"] := by decide +kernel
  have hpet : (ReferenceGraph.ofDocument petDocument).refsOut "Pet" = ["Toy"] := by decide +kernel
  have htoy : (ReferenceGraph.ofDocument petDocument).refsOut "Toy" = [] := by decide +kernel
  rw [Pruner.reachable, hseeds, ReferenceGraph.closure]
  rw [ReferenceGraph.visit, if_pos (by decide +kernel), hpet, List.append_nil]
  rw [ReferenceGraph.visit, if_pos (by decide +kernel), htoy, List.append_nil]
  rw [ReferenceGraph.visit]
  decide +kernel

theorem keptSchemas_petDocument :
    (Pruner.prune ⟨.ofList ["/pets"], []⟩ petDocument).keptSchemas = ["Pet", "Toy"] := by
  unfold Pruner.prune Pruner.keptSchemas
  rw [reachable_petDocument]
  decide +kernel

end Pets

/-- Pruning the shop away leaves the pet, its kind and its toy. -/
theorem compile_prune_pets :
    let p : Pruner := ⟨.ofList ["/pets"], []⟩
    let full : CompiledModels :=
      ⟨(CompileContext.ofDocument petDocument .default).declarations, .default⟩
    (CompileContext.ofDocument petDocument .default).IsPlain ∧
      (∀ entry ∈ petDocument.schemas, entry.2.HasPlainProperties) ∧
      compile petDocument .default = .ok full ∧
      full.declarations.map Declaration.name =
        ["GeneratedShop", "GeneratedToy", "GeneratedPetKind", "GeneratedPet"] ∧
      (p.prune petDocument).keptSchemas = ["Pet", "Toy"] ∧
      ∃ pruned, compile (p.prune petDocument).document .default = .ok pruned ∧
        pruned.declarations.map Declaration.name =
          ["GeneratedToy", "GeneratedPetKind", "GeneratedPet"] ∧
        pruned.IsPartBy (.ofDocument petDocument .default)
          (p.prune petDocument).keptSchemas.contains full := by
  intro p full
  have hproperties : ∀ entry ∈ petDocument.schemas, entry.2.HasPlainProperties := by
    have hschemas : (Json.object petDocument.schemas).HasPlainProperties := by
      simp [petDocument, Document.schemas, Document.schemas?, Document.component?, Document.field?,
        Json.get?, Json.members?, Json.hasPlainProperties_object_iff,
        Json.hasPlainProperties_list_iff, Json.hasPlainProperties_text, Reference.of?,
        List.lookup_cons]
    exact (Json.hasPlainProperties_object_iff.1 hschemas).2
  have hfull : compile petDocument .default = .ok full :=
    compile_eq_ok_iff.2 ⟨by decide +kernel, rfl⟩
  have hkept : (p.prune petDocument).keptSchemas = ["Pet", "Toy"] := keptSchemas_petDocument
  obtain ⟨pruned, hpruned, hpart⟩ :=
    compile_prune p petDocument .default isPlain_petDocument hproperties hfull
  refine ⟨isPlain_petDocument, hproperties, hfull, ?_, hkept, pruned, hpruned, ?_, hpart⟩
  · simp only [full, declarations_petDocument]
    rfl
  · obtain ⟨hshop, htoy, hkind, hpet⟩ := @comesFrom_petDocument ["Pet", "Toy"].contains
    rw [hpart.declarations, hkept]
    simp only [full, declarations_petDocument, List.filter, Declaration.name, hshop, htoy, hkind,
      hpet]
    decide +kernel

end ApiModels
