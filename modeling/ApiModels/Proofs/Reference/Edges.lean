import ApiModels.Proofs.Reference.Closure
import Mathlib.Algebra.GroupWithZero.Nat
import Mathlib.Data.List.Nodup
import Mathlib.Data.List.Perm.Basic
import Mathlib.Data.List.Sort
import Mathlib.Data.Prod.Lex

/-!
# The edges of a graph

The edges are found one after the other, and a reference adds one unless there is an edge between
the two schemas already. So between two schemas there is one edge if the first mentions the second,
and none otherwise (`mem_ends_edges`, `nodup_ends_edges`). The schemas that a schema refers to and
those that refer to it are two views of these edges (`mem_refsOut_iff_mem_ends`, `mem_refsIn`), and
each edge is counted with the schema from which it starts (`edgeCount_eq_sum`).

A mention that gives no edge dangles (`mem_dangling`). What dangles is listed in the order of the
pairs, each pair once (`pairwise_dangling`).
-/

namespace ApiModels

namespace ReferenceGraph

variable {g : ReferenceGraph}

/-! ### Adding edges -/

section Adding

variable {edges : List ReferenceEdge}

theorem mem_ends_addEdge (g : ReferenceGraph) (source : String) (edges : List ReferenceEdge)
    (reference : String × ReferenceSite) (ends : String × String) :
    ends ∈ (g.addEdge source edges reference).map (·.ends) ↔
      ends ∈ edges.map (·.ends) ∨ ends = (source, reference.1) ∧ reference.1 ∈ g.names := by
  unfold addEdge
  split
  · next hnew =>
    simp only [Bool.and_eq_true, contains, List.contains_iff_mem] at hnew
    rw [List.map_append, List.mem_append, List.map_singleton, List.mem_singleton]
    simp only [ReferenceEdge.ends, hnew.1, and_true]
  · next hold =>
    -- Without a new edge the target is no schema, or there is an edge between the two.
    simp only [Bool.and_eq_true, contains, List.contains_iff_mem, Bool.not_eq_true',
      ← Bool.not_eq_true, not_and, not_not] at hold
    constructor
    · exact .inl
    · rintro (hmem | ⟨rfl, hname⟩)
      · exact hmem
      · exact hold hname

theorem nodup_ends_addEdge (h : (edges.map (·.ends)).Nodup) (source : String)
    (reference : String × ReferenceSite) :
    ((g.addEdge source edges reference).map (·.ends)).Nodup := by
  unfold addEdge
  split
  · next hnew =>
    simp only [Bool.and_eq_true, Bool.not_eq_true', ← Bool.not_eq_true,
      List.contains_iff_mem] at hnew
    rw [List.map_append, List.map_singleton, List.nodup_append]
    refine ⟨h, List.nodup_singleton _, ?_⟩
    rintro ends hends _ hnewEnds rfl
    rw [List.mem_singleton.1 hnewEnds] at hends
    exact hnew.2 hends
  · exact h

theorem mem_ends_foldl {α : Type} {step : List ReferenceEdge → α → List ReferenceEdge}
    {adds : α → String × String → Prop}
    (hstep : ∀ edges a ends, ends ∈ (step edges a).map (·.ends) ↔
      ends ∈ edges.map (·.ends) ∨ adds a ends) {l : List α} {ends : String × String} :
    ends ∈ (l.foldl step edges).map (·.ends) ↔
      ends ∈ edges.map (·.ends) ∨ ∃ a ∈ l, adds a ends := by
  induction l generalizing edges with
  | nil => simp
  | cons a l ih =>
    rw [List.foldl_cons, ih, hstep, or_assoc]
    simp only [List.mem_cons, exists_eq_or_imp]

theorem mem_ends_addEdges (g : ReferenceGraph) (edges : List ReferenceEdge)
    (schema : String × Json) (ends : String × String) :
    ends ∈ (g.addEdges edges schema).map (·.ends) ↔ ends ∈ edges.map (·.ends) ∨
      ∃ reference ∈ schema.2.references,
        ends = (schema.1, reference.1) ∧ reference.1 ∈ g.names := by
  unfold addEdges
  exact mem_ends_foldl (mem_ends_addEdge g schema.1)

theorem nodup_ends_addEdges (h : (edges.map (·.ends)).Nodup) (schema : String × Json) :
    ((g.addEdges edges schema).map (·.ends)).Nodup := by
  refine List.foldlRecOn (motive := fun edges => (edges.map ReferenceEdge.ends).Nodup)
    schema.2.references (g.addEdge schema.1) h ?_
  intro edges hnodup reference _
  exact nodup_ends_addEdge hnodup schema.1 reference

end Adding

/-! ### Edges -/

/-- **There is an edge wherever a schema refers to a schema.** -/
theorem mem_ends_edges {source target : String} : (source, target) ∈ g.edges.map (·.ends) ↔
    ∃ schema, (source, schema) ∈ g.schemas ∧ target ∈ schema.referenceNames ∧
      target ∈ g.names := by
  unfold edges
  refine (mem_ends_foldl (mem_ends_addEdges g)).trans ?_
  simp only [List.map_nil, List.not_mem_nil, false_or, Prod.mk.injEq, Json.referenceNames,
    List.mem_map]
  constructor
  · rintro ⟨⟨name, schema⟩, hschema, reference, hreference, ⟨rfl, rfl⟩, hname⟩
    exact ⟨schema, hschema, ⟨reference, hreference, rfl⟩, hname⟩
  · rintro ⟨schema, hschema, ⟨reference, hreference, rfl⟩, hname⟩
    exact ⟨(source, schema), hschema, reference, hreference, ⟨rfl, rfl⟩, hname⟩

theorem nodup_ends_edges (g : ReferenceGraph) : (g.edges.map (·.ends)).Nodup := by
  refine List.foldlRecOn (motive := fun edges => (edges.map ReferenceEdge.ends).Nodup)
    g.schemas g.addEdges ?_ ?_
  · exact List.nodup_nil
  · intro edges hnodup schema _
    exact nodup_ends_addEdges hnodup schema

theorem mem_refsIn {source target : String} :
    source ∈ g.refsIn target ↔ (source, target) ∈ g.edges.map (·.ends) := by
  simp only [refsIn, mem_nameSet, List.mem_map, List.mem_filter, beq_iff_eq, ReferenceEdge.ends,
    Prod.mk.injEq, and_assoc]
  exact exists_congr fun edge => and_congr_right fun _ => and_comm

theorem pairwise_refsOut (g : ReferenceGraph) (name : String) :
    (g.refsOut name).Pairwise (· < ·) := by
  unfold refsOut
  split
  · exact List.Pairwise.nil
  · exact pairwise_nameSet _

section Ascending

variable (h : Ascending g.schemas)

include h

theorem mem_refsOut_iff_mem_ends {source target : String} :
    target ∈ g.refsOut source ↔ (source, target) ∈ g.edges.map (·.ends) := by
  rw [mem_refsOut, mem_ends_edges]
  refine exists_congr fun schema => and_congr (lookup_eq_some_iff_mem h.nodup_keys) ?_
  rw [Json.mem_referenceNames]

theorem refsOut_eq_targets (name : String) :
    g.refsOut name = nameSet ((g.edges.filter (·.source == name)).map (·.target)) := by
  refine (pairwise_refsOut g name).eq_of_mem_iff (pairwise_nameSet _) fun target => ?_
  rw [mem_refsOut_iff_mem_ends h]
  simp only [mem_nameSet, List.mem_map, List.mem_filter, beq_iff_eq, ReferenceEdge.ends,
    Prod.mk.injEq, and_assoc]

/-- **Every edge is counted with the schema from which it starts.** -/
theorem edgeCount_eq_sum :
    g.edgeCount = (g.names.map fun name => (g.refsOut name).length).sum := by
  have hnodup : (g.names.flatMap fun name => (g.refsOut name).map (name, ·)).Nodup := by
    refine List.nodup_flatMap.2 ⟨fun name _ => ?_, ?_⟩
    · exact (nodup_of_pairwise_lt (pairwise_refsOut g name)).map fun _ _ heq => (Prod.mk.inj heq).2
    · refine h.nodup_keys.imp fun {source other} hne ends hends hother => ?_
      obtain ⟨_, -, rfl⟩ := List.mem_map.1 hends
      obtain ⟨_, -, heq⟩ := List.mem_map.1 hother
      exact hne (Prod.mk.inj heq).1.symm
  -- The edges are these pairs, in another order.
  have hperm : (g.edges.map (·.ends)).Perm
      (g.names.flatMap fun name => (g.refsOut name).map (name, ·)) := by
    refine (List.perm_ext_iff_of_nodup (nodup_ends_edges g) hnodup).2 ?_
    rintro ⟨source, target⟩
    rw [← mem_refsOut_iff_mem_ends h, List.mem_flatMap]
    constructor
    · intro htarget
      obtain ⟨schema, hschema, -⟩ := mem_refsOut.1 htarget
      have hsource : source ∈ g.names := List.mem_map.2 ⟨_, Json.mem_of_lookup hschema, rfl⟩
      exact ⟨source, hsource, List.mem_map.2 ⟨target, htarget, rfl⟩⟩
    · rintro ⟨name, -, hends⟩
      obtain ⟨other, hother, heq⟩ := List.mem_map.1 hends
      obtain ⟨rfl, rfl⟩ := Prod.mk.inj heq
      exact hother
  have hlength := hperm.length_eq
  rw [List.length_map, List.length_flatMap] at hlength
  simpa only [edgeCount, List.length_map] using hlength

end Ascending

/-- Two references to one schema make one edge, and a schema may refer to itself. -/
example : edgeCount ⟨[("A", .list [.object [("$ref", .text "#/components/schemas/B")],
      .object [("$ref", .text "#/components/schemas/B")],
      .object [("$ref", .text "#/components/schemas/A")]]),
    ("B", .object [("$ref", .text "#/components/schemas/None")])]⟩ = 2 := by
  cbv

/-! ### What dangles -/

/-- **What is mentioned and is no schema dangles.** -/
theorem mem_dangling {source target : String} : (source, target) ∈ g.dangling ↔
    ∃ schema, (source, schema) ∈ g.schemas ∧ target ∈ schema.referenceNames ∧
      target ∉ g.names := by
  unfold dangling
  rw [List.mem_flatMap]
  simp only [Prod.exists, List.mem_map, mem_nameSet, List.mem_filter, contains, Bool.not_eq_true',
    ← Bool.not_eq_true, List.contains_iff_mem, Prod.mk.injEq]
  constructor
  · rintro ⟨name, schema, hschema, other, hother, rfl, rfl⟩
    exact ⟨schema, hschema, hother⟩
  · rintro ⟨schema, hschema, htarget⟩
    exact ⟨source, schema, hschema, target, htarget, rfl, rfl⟩

/-- The pairs ascend: schema by schema, and for a schema name by name. -/
theorem pairwise_dangling (h : Ascending g.schemas) :
    g.dangling.Pairwise (Prod.Lex (· < ·) (· < ·)) := by
  unfold dangling
  refine List.pairwise_flatMap.2 ⟨fun schema _ => ?_, ?_⟩
  · rw [List.pairwise_map]
    exact (pairwise_nameSet _).imp fun hlt => Prod.Lex.right _ hlt
  · refine h.imp fun {schema other} hlt first hfirst second hsecond => ?_
    obtain ⟨_, -, rfl⟩ := List.mem_map.1 hfirst
    obtain ⟨_, -, rfl⟩ := List.mem_map.1 hsecond
    exact Prod.Lex.left _ _ hlt

end ReferenceGraph

end ApiModels
