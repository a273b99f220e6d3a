import ApiModels.Proofs.Compilation.Lowering
import Mathlib.Logic.Function.Iterate
import Mathlib.Logic.Relation

/-!
# Which records can be compared

The marks of comparability are propagated between the written records, by the texts of their types.
Two statements say what comes out.

* Among written records a mark stays if the record leads to no record without one
  (`forall₂_propagateEquatable`), and this takes no more passes than there are marks
  (`exists_passes`).
* By default the text of a type mentions a record if the type is built from it
  (`mentions_recordFrom_iff`). So a record of a document can be compared if no record that it
  reaches, the record itself included, holds a value whose structure is not described
  (`compile_isEquatable`).
-/

namespace ApiModels

open Relation (ReflTransGen)

/-! ### Written records -/

/-- The text of a property's type, inside its brackets, is the name of the other record. -/
def RecordType.Mentions (r s : RecordType) : Prop :=
  ∃ p ∈ r.properties, innermostType p.type = s.name

/-- Among records one leads to another, if a chain of records leads there in which each one mentions
the next. -/
def RecordType.LeadsAmong (records : List RecordType) : RecordType → RecordType → Prop :=
  ReflTransGen fun r s => s ∈ records ∧ r.Mentions s

/-- One pass of the propagation. -/
def propagationPass (records : List RecordType) : List RecordType :=
  records.map (RecordType.spoiledBy (opaqueNames records))

theorem propagateEquatable_of_stable {records : List RecordType}
    (h : propagationPass records = records) : propagateEquatable records = records := by
  rw [propagateEquatable]
  exact dif_pos h

namespace RecordType

variable {records : List RecordType} {r s : RecordType}

theorem refersTo_opaqueNames_iff :
    r.refersTo (opaqueNames records) = true ↔
      ∃ s ∈ records, r.Mentions s ∧ s.isEquatable = false := by
  unfold refersTo Mentions
  simp only [List.any_eq_true, List.contains_iff_mem, mem_opaqueNames]
  constructor
  · rintro ⟨p, hp, s, hs, hopaque, hname⟩
    exact ⟨s, hs, ⟨p, hp, hname.symm⟩, hopaque⟩
  · rintro ⟨s, hs, ⟨p, hp, hname⟩, hopaque⟩
    exact ⟨p, hp, s, hs, hopaque, hname.symm⟩

theorem isEquatable_spoiledBy_iff :
    (r.spoiledBy (opaqueNames records)).isEquatable = true ↔
      r.isEquatable = true ∧ ∀ s ∈ records, r.Mentions s → s.isEquatable = true := by
  have hrefers : r.refersTo (opaqueNames records) = false ↔
      ∀ s ∈ records, r.Mentions s → s.isEquatable = true := by
    rw [← Bool.not_eq_true, refersTo_opaqueNames_iff]
    push Not
    simp only [ne_eq, Bool.not_eq_false]
  rw [← hrefers, spoiledBy]
  cases hmarked : r.isEquatable <;> cases r.refersTo (opaqueNames records) <;> simp [hmarked]

@[simp] theorem mentions_spoiledBy_iff {names : List String} :
    (r.spoiledBy names).Mentions (s.spoiledBy names) ↔ r.Mentions s := by
  simp only [Mentions, properties_spoiledBy, name_spoiledBy]

theorem LeadsAmong.spoiled (h : r.LeadsAmong records s) :
    (r.spoiledBy (opaqueNames records)).LeadsAmong (propagationPass records)
      (s.spoiledBy (opaqueNames records)) := by
  induction h with
  | refl => exact .refl
  | tail _ hstep ih =>
    exact ih.tail ⟨List.mem_map_of_mem hstep.1, mentions_spoiledBy_iff.2 hstep.2⟩

theorem LeadsAmong.of_spoiled {s' : RecordType}
    (h : (r.spoiledBy (opaqueNames records)).LeadsAmong (propagationPass records) s') :
    ∃ s, r.LeadsAmong records s ∧ s.spoiledBy (opaqueNames records) = s' := by
  induction h with
  | refl => exact ⟨r, .refl, rfl⟩
  | tail _ hstep ih =>
    obtain ⟨s, hleads, rfl⟩ := ih
    obtain ⟨t, ht, rfl⟩ := List.mem_map.1 hstep.1
    exact ⟨t, hleads.tail ⟨ht, mentions_spoiledBy_iff.1 hstep.2⟩, rfl⟩

/-- **A pass leaves as many records without a mark within reach as there were before.** -/
theorem comparable_propagationPass_iff :
    (∀ s, (r.spoiledBy (opaqueNames records)).LeadsAmong (propagationPass records) s →
      s.isEquatable = true) ↔ ∀ s, r.LeadsAmong records s → s.isEquatable = true := by
  constructor
  · intro h s hleads
    exact (isEquatable_spoiledBy_iff.1 (h _ hleads.spoiled)).1
  · intro h s' hleads
    obtain ⟨s, hbefore, rfl⟩ := hleads.of_spoiled
    refine isEquatable_spoiledBy_iff.2 ⟨h s hbefore, fun t ht hmentions => ?_⟩
    exact h t (hbefore.tail ⟨ht, hmentions⟩)

/-- Where a pass changes nothing, all that a marked record leads to is marked. -/
theorem comparable_of_stable (hfix : propagationPass records = records) (hr : r ∈ records)
    (h : r.isEquatable = true) : ∀ s, r.LeadsAmong records s → s.isEquatable = true := by
  intro s hleads
  have hstays : ∀ t ∈ records, t.spoiledBy (opaqueNames records) = t :=
    List.map_eq_map_iff.1 (hfix.trans (List.map_id' records).symm)
  -- Only for the records of the list it is known that they stay as they are.
  suffices hs : s ∈ records ∧ s.isEquatable = true from hs.2
  induction hleads with
  | refl => exact ⟨hr, h⟩
  | @tail t u _ hstep ih =>
    refine ⟨hstep.1, ?_⟩
    have hmarked := ih.2
    rw [← hstays t ih.1] at hmarked
    exact (isEquatable_spoiledBy_iff.1 hmarked).2 u hstep.1 hstep.2

end RecordType

/-- **Propagation keeps the mark of a record that leads to none without a mark.** -/
theorem forall₂_propagateEquatable (records : List RecordType) :
    List.Forall₂ (fun r r' : RecordType =>
        r'.isEquatable = true ↔ ∀ s, r.LeadsAmong records s → s.isEquatable = true)
      records (propagateEquatable records) := by
  -- The induction is on the passes: each one but the last takes a mark away.
  induction hn : (equatables records).length using Nat.strongRecOn generalizing records with
  | ind n ih =>
    subst hn
    by_cases hfix : propagationPass records = records
    · rw [propagateEquatable_of_stable hfix, List.forall₂_same]
      intro r hr
      exact ⟨fun h => RecordType.comparable_of_stable hfix hr h, fun h => h r .refl⟩
    · have hrest := ih _ (length_equatables_map_lt hfix) _ rfl
      rw [propagateEquatable_spoiled, List.forall₂_map_left_iff] at hrest
      exact hrest.imp fun r r' hr => hr.trans RecordType.comparable_propagationPass_iff

/-- **The propagation ends**, after no more passes than there are marks. -/
theorem exists_passes (records : List RecordType) :
    ∃ passes ≤ (equatables records).length,
      propagationPass^[passes] records = propagateEquatable records ∧
        propagationPass (propagateEquatable records) = propagateEquatable records := by
  induction hn : (equatables records).length using Nat.strongRecOn generalizing records with
  | ind n ih =>
    subst hn
    by_cases hfix : propagationPass records = records
    · rw [propagateEquatable_of_stable hfix]
      exact ⟨0, Nat.zero_le _, rfl, hfix⟩
    · have hfewer := length_equatables_map_lt hfix
      obtain ⟨passes, hle, hpasses, hstays⟩ := ih _ hfewer _ rfl
      rw [propagateEquatable_spoiled] at hpasses hstays
      exact ⟨passes + 1, Nat.succ_le_of_lt (Nat.lt_of_le_of_lt hle hfewer), hpasses, hstays⟩

/-! ### Records of a document -/

namespace LoweredRecord

/-- A property of the record is built from the other record. -/
def RefersTo (r s : LoweredRecord) : Prop :=
  ∃ field ∈ r.fields, field.type.named? = some s.owner.typeName

/-- A property of the record holds something whose structure is not described. -/
def IsOpaque (r : LoweredRecord) : Prop := ∃ field ∈ r.fields, field.type.hasPlaceholder = true

end LoweredRecord

namespace CompileContext

/-- A record reaches another one through properties that are built from records. -/
def Reaches (ctx : CompileContext) : LoweredRecord → LoweredRecord → Prop :=
  ReflTransGen fun r s => s ∈ ctx.loweredRecords ∧ r.RefersTo s

theorem isEquatable_recordFrom_iff (ctx : CompileContext) (r : LoweredRecord) :
    (ctx.recordFrom r).isEquatable = true ↔ ¬ r.IsOpaque := by
  have hmark : (ctx.recordFrom r).isEquatable = !r.types.any FieldType.hasPlaceholder := rfl
  rw [hmark, Bool.not_eq_true', List.any_eq_false, LoweredRecord.types, List.forall_mem_map,
    LoweredRecord.IsOpaque]
  push Not
  rfl

variable {d : Document} {r s : LoweredRecord}

/-- **By default a written record mentions the records to which it refers.** -/
theorem mentions_recordFrom_iff (hr : r ∈ (ofDocument d .default).loweredRecords)
    (hs : s ∈ (ofDocument d .default).loweredRecords) :
    ((ofDocument d .default).recordFrom r).Mentions ((ofDocument d .default).recordFrom s) ↔
      r.RefersTo s := by
  have htypes := (ofDocument d .default).map_type_recordFrom r
  have hfields := (isGenerated_of_mem_loweredRecords hr).2
  have hname := (isGenerated_of_mem_loweredRecords hs).1
  constructor
  · rintro ⟨p, hp, hmentions⟩
    have htype : p.type ∈ r.types.map _ := htypes ▸ List.mem_map_of_mem hp
    obtain ⟨type, hmem, htype⟩ := List.mem_map.1 htype
    obtain ⟨field, hfield, rfl⟩ := List.mem_map.1 hmem
    rw [← htype] at hmentions
    exact ⟨field, hfield, named?_of_innermostType hname (hfields field hfield) hmentions⟩
  · rintro ⟨field, hfield, hnamed⟩
    have hmem : field.type.render .default ∈ r.types.map fun type => type.render .default :=
      List.mem_map_of_mem (List.mem_map_of_mem hfield)
    obtain ⟨p, hp, htype⟩ := List.mem_map.1 (htypes.symm ▸ hmem)
    refine ⟨p, hp, ?_⟩
    rw [htype]
    exact innermostType_of_named? hname hnamed

/-- The records that a record reaches are those to which it leads when they are written. -/
theorem leadsAmong_recordFrom_iff (hr : r ∈ (ofDocument d .default).loweredRecords)
    {written : RecordType} :
    ((ofDocument d .default).recordFrom r).LeadsAmong
        ((ofDocument d .default).loweredRecords.map (ofDocument d .default).recordFrom) written ↔
      ∃ s ∈ (ofDocument d .default).loweredRecords, (ofDocument d .default).Reaches r s ∧
        (ofDocument d .default).recordFrom s = written := by
  constructor
  · intro hleads
    induction hleads with
    | refl => exact ⟨r, hr, .refl, rfl⟩
    | tail _ hstep ih =>
      obtain ⟨s, hs, hreaches, rfl⟩ := ih
      obtain ⟨t, ht, rfl⟩ := List.mem_map.1 hstep.1
      exact ⟨t, ht, hreaches.tail ⟨ht, (mentions_recordFrom_iff hs ht).1 hstep.2⟩, rfl⟩
  · rintro ⟨s, -, hreaches, rfl⟩
    -- A written record mentions what it refers to only if both belong to the document.
    suffices h : s ∈ (ofDocument d .default).loweredRecords ∧
        ((ofDocument d .default).recordFrom r).LeadsAmong
          ((ofDocument d .default).loweredRecords.map (ofDocument d .default).recordFrom)
          ((ofDocument d .default).recordFrom s) from h.2
    induction hreaches with
    | refl => exact ⟨hr, .refl⟩
    | tail _ hstep ih =>
      obtain ⟨ht, hrefers⟩ := hstep
      exact ⟨ht, ih.2.tail ⟨List.mem_map_of_mem ht, (mentions_recordFrom_iff ih.1 ht).2 hrefers⟩⟩

/-- What a written record leads to can be compared if nothing that the record reaches is opaque. -/
theorem comparable_recordFrom_iff (hr : r ∈ (ofDocument d .default).loweredRecords) :
    (∀ written, ((ofDocument d .default).recordFrom r).LeadsAmong
        ((ofDocument d .default).loweredRecords.map (ofDocument d .default).recordFrom) written →
          written.isEquatable = true) ↔
      ∀ other, (ofDocument d .default).Reaches r other → ¬ other.IsOpaque := by
  constructor
  · intro h other hreaches
    have hother : other ∈ (ofDocument d .default).loweredRecords := by
      cases hreaches with
      | refl => exact hr
      | tail _ hstep => exact hstep.1
    have hleads := (leadsAmong_recordFrom_iff hr).2 ⟨other, hother, hreaches, rfl⟩
    exact (isEquatable_recordFrom_iff _ other).1 (h _ hleads)
  · intro h written hleads
    obtain ⟨other, -, hreaches, rfl⟩ := (leadsAmong_recordFrom_iff hr).1 hleads
    exact (isEquatable_recordFrom_iff _ other).2 (h other hreaches)

end CompileContext

/-- **A record can be compared if it reaches no record that holds something whose structure is not
described**; the propagation that finds this out ends after at most as many passes as there are
records. -/
theorem compile_isEquatable {d : Document} {models : CompiledModels}
    (h : compile d .default = .ok models) :
    let ctx := CompileContext.ofDocument d .default
    let written := models.declarations.filterMap Declaration.record?
    List.Forall₂ (fun record r => ctx.Writes record r ∧
        (r.isEquatable = true ↔ ∀ other, ctx.Reaches record other → ¬ other.IsOpaque))
      ctx.loweredRecords written ∧
      ∃ passes ≤ ctx.loweredRecords.length,
        propagationPass^[passes] (ctx.loweredRecords.map ctx.recordFrom) = written ∧
          propagationPass written = written := by
  intro ctx written
  obtain ⟨-, rfl⟩ := compile_eq_ok_iff.1 h
  have hwritten : written = propagateEquatable (ctx.loweredRecords.map ctx.recordFrom) :=
    ctx.filterMap_record?_declarations
  have hwrites : List.Forall₂ ctx.Writes ctx.loweredRecords written := ctx.forall₂_writes
  rw [hwritten] at hwrites ⊢
  constructor
  · -- Both statements are about the pairs of a lowered record and what is written for it.
    have hmarks := forall₂_propagateEquatable (ctx.loweredRecords.map ctx.recordFrom)
    rw [List.forall₂_map_left_iff, List.forall₂_iff_zip] at hmarks
    rw [List.forall₂_iff_zip] at hwrites ⊢
    refine ⟨hwrites.1, fun hmem => ⟨hwrites.2 hmem, (hmarks.2 hmem).trans ?_⟩⟩
    exact CompileContext.comparable_recordFrom_iff (List.of_mem_zip hmem).1
  · -- There are no more marks than records.
    obtain ⟨passes, hle, hpasses⟩ := exists_passes (ctx.loweredRecords.map ctx.recordFrom)
    have hmarks : (equatables (ctx.loweredRecords.map ctx.recordFrom)).length ≤
        ctx.loweredRecords.length := by
      rw [← ctx.loweredRecords.length_map ctx.recordFrom]
      exact List.length_filter_le _ _
    exact ⟨passes, Nat.le_trans hle hmarks, hpasses⟩

/-- Two records that refer to each other, one whose value is not described, and one with a list of
that one. -/
def treeDocument : Document where
  members := [
    ("components", .object [("schemas", .object [
      ("Leaf", .object [("properties", .object [("value", .object [("type", .text "object")])])]),
      ("Node", .object [
        ("properties", .object [("tree", .object [("$ref", .text "#/components/schemas/Tree")])])]),
      ("Shelf", .object [("properties", .object [
        ("leaves", .object [
          ("items", .object [("$ref", .text "#/components/schemas/Leaf")]),
          ("type", .text "array")])])]),
      ("Tree", .object [("properties", .object [
        ("nodes", .object [
          ("items", .object [("$ref", .text "#/components/schemas/Node")]),
          ("type", .text "array")])])])])])]
  sorted := by decide +kernel
  sections := by decide +kernel

open CompileContext in
theorem declarations_treeDocument : (ofDocument treeDocument .default).declarations = [
    .record ⟨"GeneratedLeaf", some "Leaf", none,
      [⟨"value", "value", "SAOAIJSONValue", true, none⟩], false⟩,
    .record ⟨"GeneratedNode", some "Node", none,
      [⟨"tree", "tree", "GeneratedTree", true, none⟩], true⟩,
    .record ⟨"GeneratedShelf", some "Shelf", none,
      [⟨"leaves", "leaves", "[GeneratedLeaf]", true, none⟩], false⟩,
    .record ⟨"GeneratedTree", some "Tree", none,
      [⟨"nodes", "nodes", "[GeneratedNode]", true, none⟩], true⟩] := by
  have howners : (ofDocument treeDocument .default).owners = [
      ⟨"Leaf", "GeneratedLeaf", .object [⟨"value", false, none, .object []⟩]⟩,
      ⟨"Node", "GeneratedNode", .object [⟨"tree", false, none, .reference "Tree"⟩]⟩,
      ⟨"Shelf", "GeneratedShelf", .object [⟨"leaves", false, none, .array (.reference "Leaf")⟩]⟩,
      ⟨"Tree", "GeneratedTree", .object [⟨"nodes", false, none, .array (.reference "Node")⟩]⟩] := by
    decide +kernel
  unfold declarations recordsAndInline
  rw [howners]
  simp only [compileRecords, Shape.role, compileRecord, fieldTypes, walk]
  decide +kernel

/-- The mark of the tree says that no value without a description is within its reach. -/
theorem compile_isEquatable_tree :
    let ctx := CompileContext.ofDocument treeDocument .default
    let models : CompiledModels := ⟨ctx.declarations, .default⟩
    let written := models.declarations.filterMap Declaration.record?
    compile treeDocument .default = .ok models ∧
      written.map (fun r => (r.name, r.isEquatable)) = [("GeneratedLeaf", false),
        ("GeneratedNode", true), ("GeneratedShelf", false), ("GeneratedTree", true)] ∧
      List.Forall₂ (fun record r => ctx.Writes record r ∧
        (r.isEquatable = true ↔ ∀ other, ctx.Reaches record other → ¬ other.IsOpaque))
      ctx.loweredRecords written ∧
      ∃ passes ≤ ctx.loweredRecords.length,
        propagationPass^[passes] (ctx.loweredRecords.map ctx.recordFrom) = written ∧
          propagationPass written = written := by
  intro ctx models written
  have hcompile : compile treeDocument .default = .ok models :=
    compile_eq_ok_iff.2 ⟨by decide +kernel, rfl⟩
  have hwritten : written.map (fun r => (r.name, r.isEquatable)) = [("GeneratedLeaf", false),
      ("GeneratedNode", true), ("GeneratedShelf", false), ("GeneratedTree", true)] := by
    simp only [written, models, ctx, declarations_treeDocument]
    rfl
  exact ⟨hcompile, hwritten, compile_isEquatable hcompile⟩

end ApiModels
