import ApiModels.Proofs.Reference.Edges
import Mathlib.Data.List.Basic

/-!
# Part of a graph

A graph is restricted to some of its schemas. If these are closed under the edges, the schemas that
are kept refer to the same schemas as before (`refsOut_restrict`), and what dangles is what dangled
before from a schema that is kept (`dangling_restrict`).
-/

namespace ApiModels

namespace ReferenceGraph

/-- The schemas whose names are kept. -/
def restrict (g : ReferenceGraph) (keep : String → Bool) : ReferenceGraph :=
  ⟨g.schemas.filter fun entry => keep entry.1⟩

/-- Whatever schema a kept one mentions is kept. -/
def IsClosed (g : ReferenceGraph) (keep : String → Bool) : Prop :=
  ∀ source schema target, (source, schema) ∈ g.schemas → keep source = true →
    schema.Mentions target → target ∈ g.names → keep target = true

variable {g : ReferenceGraph} {keep : String → Bool}

theorem names_restrict : (g.restrict keep).names = g.names.filter keep := by
  unfold names restrict
  rw [List.filter_map]
  rfl

theorem get?_restrict {name : String} (h : keep name = true) :
    (g.restrict keep).get? name = g.get? name :=
  lookup_filter h

/-- A name that a kept schema mentions is that of a schema after the restriction if it was one
before. -/
theorem contains_restrict (hclosed : g.IsClosed keep) {source target : String} {schema : Json}
    (hschema : (source, schema) ∈ g.schemas) (hkeep : keep source = true)
    (h : schema.Mentions target) : (g.restrict keep).contains target = g.contains target := by
  rw [Bool.eq_iff_iff, contains, contains, List.contains_iff_mem, List.contains_iff_mem,
    names_restrict, List.mem_filter]
  exact ⟨fun hmem => hmem.1, fun hmem => ⟨hmem, hclosed source schema target hschema hkeep h hmem⟩⟩

theorem refsOut_restrict (hclosed : g.IsClosed keep) {source : String} (h : keep source = true) :
    (g.restrict keep).refsOut source = g.refsOut source := by
  unfold refsOut
  rw [get?_restrict h]
  cases hschema : g.get? source with
  | none => rfl
  | some schema =>
    have hmem : (source, schema) ∈ g.schemas := Json.mem_of_lookup hschema
    have htargets : schema.referenceNames.filter (g.restrict keep).contains =
        schema.referenceNames.filter g.contains :=
      List.filter_congr fun target htarget =>
        contains_restrict hclosed hmem h (Json.mem_referenceNames.1 htarget)
    simp only [htargets]

/-- **What dangles dangled before.** -/
theorem dangling_restrict (hclosed : g.IsClosed keep) :
    (g.restrict keep).dangling = g.dangling.filter fun edge => keep edge.1 := by
  have hsource : ∀ entry ∈ g.schemas, ∀ edge ∈ (nameSet (entry.2.referenceNames.filter
      (!g.contains ·))).map (entry.1, ·), keep edge.1 = keep entry.1 := by
    rintro entry - edge hedge
    obtain ⟨target, -, rfl⟩ := List.mem_map.1 hedge
    rfl
  unfold dangling
  rw [filter_flatMap hsource]
  refine List.flatMap_congr ?_
  rintro ⟨source, schema⟩ hentry
  obtain ⟨hschema, hkeep⟩ := List.mem_filter.1 hentry
  have hnames : schema.referenceNames.filter (!(g.restrict keep).contains ·) =
      schema.referenceNames.filter (!g.contains ·) := by
    refine List.filter_congr fun target htarget => ?_
    rw [contains_restrict hclosed hschema hkeep (Json.mem_referenceNames.1 htarget)]
  simp only [hnames]

theorem mem_names_of_mentions (h : g.dangling = []) {source target : String} {schema : Json}
    (hschema : (source, schema) ∈ g.schemas) (hmentions : schema.Mentions target) :
    target ∈ g.names := by
  by_contra hmem
  have hedge : (source, target) ∈ g.dangling :=
    mem_dangling.2 ⟨schema, hschema, Json.mem_referenceNames.2 hmentions, hmem⟩
  rw [h] at hedge
  cases hedge

end ReferenceGraph

end ApiModels
