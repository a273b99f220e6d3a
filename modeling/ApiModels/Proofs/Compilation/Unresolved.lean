import ApiModels.Compilation.Basic
import ApiModels.Proofs.Reference.Edges

/-!
# What a compilation fails with

A compilation fails if a reference in a schema names no schema, whatever the settings are, and it
fails with the first such reference in the order of the pairs (`compile_eq_error_iff_least`). With
the edges of the graph this accounts for every reference: either it is an edge, which is seen from
both schemas and counted once, or it dangles and no document with these schemas compiles
(`ofSchemas_accountsFor`).
-/

namespace ApiModels

namespace ReferenceGraph

/-- The graph of a collection of schemas. -/
def ofSchemas (schemas : Keyed Json) : ReferenceGraph := ⟨schemas.entries⟩

/-- What is true of a graph that accounts for every reference in the definitions of schemas. -/
structure AccountsFor (schemas : Keyed Json) (g : ReferenceGraph) : Prop where
  refsOut : ∀ source target, target ∈ g.refsOut source ↔
    ∃ schema, schemas.get? source = some schema ∧ target ∈ schema.referenceNames ∧
      target ∈ schemas.keys
  refsIn : ∀ source target, source ∈ g.refsIn target ↔ target ∈ g.refsOut source
  refsOutSorted : ∀ name, (g.refsOut name).Pairwise (· < ·)
  refsInSorted : ∀ name, (g.refsIn name).Pairwise (· < ·)
  /-- What a schema refers to are the targets of its edges. -/
  targets : ∀ name,
    g.refsOut name = nameSet ((g.edges.filter (·.source == name)).map (·.target))
  edgeCount : g.edgeCount = (schemas.keys.map fun name => (g.refsOut name).length).sum
  dangling : ∀ source target, (source, target) ∈ g.dangling ↔
    ∃ schema, schemas.get? source = some schema ∧ target ∈ schema.referenceNames ∧
      target ∉ schemas.keys
  /-- In the order of the pairs, each pair once. -/
  danglingSorted : g.dangling.Pairwise (Prod.Lex (· < ·) (· < ·))
  /-- A document with these schemas does not compile exactly if something dangles. -/
  fails : ∀ (d : Document) settings, d.schemas = schemas.entries →
    ((∃ reference, compile d settings = .error reference) ↔ g.dangling ≠ [])
  /-- The error names the least of the pairs. -/
  failsWith : ∀ (d : Document) settings reference, d.schemas = schemas.entries →
    (compile d settings = .error reference ↔
      (reference.source, reference.target) ∈ g.dangling ∧ ∀ edge ∈ g.dangling,
        edge = (reference.source, reference.target) ∨
          Prod.Lex (· < ·) (· < ·) (reference.source, reference.target) edge)

end ReferenceGraph

/-! ### The error of a compilation -/

theorem head?_eq_some_iff_least {α : Type} {R : α → α → Prop} [Std.Asymm R] {l : List α}
    (h : l.Pairwise R) {a : α} : l.head? = some a ↔ a ∈ l ∧ ∀ b ∈ l, b = a ∨ R a b := by
  cases l with
  | nil => simp
  | cons first rest =>
    have hfirst := (List.pairwise_cons.1 h).1
    rw [List.head?_cons, Option.some.injEq]
    constructor
    · rintro rfl
      refine ⟨List.mem_cons_self, fun b hb => ?_⟩
      exact (List.mem_cons.1 hb).imp id (hfirst b)
    · rintro ⟨hmem, hleast⟩
      rcases List.mem_cons.1 hmem with rfl | hmem
      · rfl
      · -- A later member would have to precede the first one, which precedes it.
        rcases hleast first List.mem_cons_self with heq | hprecedes
        · exact heq
        · exact absurd hprecedes (Std.Asymm.asymm _ _ (hfirst a hmem))

section Compile

variable {d : Document} {settings : Settings}

theorem compile_eq_error_iff {reference : UnresolvedReference} :
    compile d settings = .error reference ↔ (ReferenceGraph.ofDocument d).dangling.head? =
      some (reference.source, reference.target) := by
  cases hdangling : (ReferenceGraph.ofDocument d).dangling with
  | nil =>
    rw [compile, hdangling]
    constructor
    · rintro ⟨⟩
    · rintro ⟨⟩
  | cons edge edges =>
    obtain ⟨source, target⟩ := edge
    rw [compile, hdangling]
    constructor
    · rintro ⟨⟩
      rfl
    · rintro ⟨⟩
      rfl

theorem exists_compile_eq_error_iff : (∃ reference, compile d settings = .error reference) ↔
    (ReferenceGraph.ofDocument d).dangling ≠ [] := by
  simp only [compile_eq_error_iff]
  cases (ReferenceGraph.ofDocument d).dangling with
  | nil => simp
  | cons edge edges => exact ⟨fun _ => List.cons_ne_nil _ _, fun _ => ⟨⟨edge.1, edge.2⟩, rfl⟩⟩

/-- **A compilation fails with the least of the references that dangle.** -/
theorem compile_eq_error_iff_least {reference : UnresolvedReference} :
    compile d settings = .error reference ↔
      (reference.source, reference.target) ∈ (ReferenceGraph.ofDocument d).dangling ∧
        ∀ edge ∈ (ReferenceGraph.ofDocument d).dangling,
          edge = (reference.source, reference.target) ∨
            Prod.Lex (· < ·) (· < ·) (reference.source, reference.target) edge := by
  rw [compile_eq_error_iff]
  have hsorted : Ascending d.schemas := (Json.sorted_object_iff.1 d.sorted_schemas).1
  exact head?_eq_some_iff_least (ReferenceGraph.pairwise_dangling hsorted)

end Compile

/-- **Every reference is accounted for**: it is an edge, or it dangles and is among those of which
the least is the error of a compilation. -/
theorem ReferenceGraph.ofSchemas_accountsFor (schemas : Keyed Json) :
    (ofSchemas schemas).AccountsFor schemas := by
  have hsorted : Ascending (ofSchemas schemas).schemas := schemas.ascending
  have hget : ∀ name schema, schemas.get? name = some schema ↔
      (name, schema) ∈ (ofSchemas schemas).schemas :=
    fun _ _ => lookup_eq_some_iff_mem hsorted.nodup_keys
  have hgraph : ∀ d : Document, d.schemas = schemas.entries → ofDocument d = ofSchemas schemas :=
    fun _ hd => congrArg ReferenceGraph.mk hd
  constructor
  case refsOut =>
    intro source target
    rw [mem_refsOut_iff_mem_ends hsorted, mem_ends_edges]
    simp only [hget]
    rfl
  case refsIn =>
    intro source target
    rw [mem_refsIn, mem_refsOut_iff_mem_ends hsorted]
  case refsOutSorted => exact pairwise_refsOut _
  case refsInSorted => exact fun _ => pairwise_nameSet _
  case targets => exact refsOut_eq_targets hsorted
  case edgeCount => exact edgeCount_eq_sum hsorted
  case dangling =>
    intro source target
    rw [mem_dangling]
    simp only [hget]
    rfl
  case danglingSorted => exact pairwise_dangling hsorted
  case fails =>
    intro d settings hd
    rw [exists_compile_eq_error_iff, hgraph d hd]
  case failsWith =>
    intro d settings reference hd
    rw [compile_eq_error_iff_least, hgraph d hd]

end ApiModels
