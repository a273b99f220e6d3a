import ApiModels.Proofs.Reference.Edges
import Mathlib.Order.Bounds.Defs

/-!
# The closure is the least closed set

A set of names covers seeds if it holds each of them that is a schema, and with every schema those
that are referred to in its definition (`ReferenceGraph.Covers`). The closure is the least such set.
Whatever is reachable lies in every set that covers the seeds (`Reachable.mem_of_covers`), and from
this alone follow the laws of a closure: only the seeds that are schemas count, more seeds give more
names, and a second closure adds none. Where the schemas ascend, as those of a document do, what a
schema refers to are the targets of its edges, and so the closure is also the least set that is
closed along the edges (`isLeast_closure_edges`). `closure_isLeast` is the whole.
-/

namespace ApiModels

namespace ReferenceGraph

/-- The names hold the seeds that are schemas, and with a schema all schemas that a reference in its
definition names. -/
structure Covers (g : ReferenceGraph) (seeds : List String) (names : Set String) : Prop where
  seeds : ∀ name ∈ seeds, name ∈ g.names → name ∈ names
  targets : ∀ source ∈ names, ∀ schema, g.get? source = some schema →
    ∀ target ∈ schema.referenceNames, target ∈ g.names → target ∈ names

/-- The names hold the seeds that are schemas, and with the source of an edge its target. -/
structure CoversEdges (g : ReferenceGraph) (seeds : List String) (names : Set String) : Prop where
  seeds : ∀ name ∈ seeds, name ∈ g.names → name ∈ names
  targets : ∀ edge ∈ g.edges, edge.source ∈ names → edge.target ∈ names

/-- What is true of a list of names that is the closure of seeds. -/
structure IsClosureOf (g : ReferenceGraph) (seeds names : List String) : Prop where
  ascending : names.Pairwise (· < ·)
  schemas : ∀ name ∈ names, name ∈ g.names
  /-- The least of all sets that cover the seeds. -/
  least : IsLeast {covering | g.Covers seeds covering} {name | name ∈ names}
  /-- There is one edge at most from one schema to another. -/
  single : (g.edges.map (·.ends)).Nodup
  /-- What is followed from a schema are its edges. -/
  followed : Ascending g.schemas →
    ∀ name, g.refsOut name = nameSet ((g.edges.filter (·.source == name)).map (·.target))
  /-- The least of all sets that cover the seeds along the edges. -/
  leastEdges : Ascending g.schemas →
    IsLeast {covering | g.CoversEdges seeds covering} {name | name ∈ names}
  /-- Seeds that are no schemas, repetitions and the order do not count. -/
  unordered : ∀ others, (∀ name ∈ g.names, name ∈ others ↔ name ∈ seeds) →
    g.closure others = names
  monotone : ∀ more, (∀ name ∈ g.names, name ∈ seeds → name ∈ more) → names ⊆ g.closure more
  idempotent : g.closure names = names
  empty : names = [] ↔ ∀ name ∈ seeds, name ∉ g.names

variable {g : ReferenceGraph} {seeds more : List String}

/-! ### Sets that cover the seeds -/

theorem covers_reachable : g.Covers seeds {name | g.Reachable seeds name} where
  seeds _ hseed hname := Reachable.seed hseed hname
  targets _ hsource schema hschema _ htarget hname :=
    Reachable.step hsource
      (mem_refsOut.2 ⟨schema, hschema, Json.mem_referenceNames.1 htarget, hname⟩)

/-- **What is reachable is in every set that covers the seeds.** -/
theorem Reachable.mem_of_covers {names : Set String} (hcovers : g.Covers seeds names)
    {name : String} (h : g.Reachable seeds name) : name ∈ names := by
  induction h with
  | seed hseed hname => exact hcovers.seeds _ hseed hname
  | step _ hedge ih =>
    obtain ⟨schema, hschema, hmentions, hname⟩ := mem_refsOut.1 hedge
    exact hcovers.targets _ ih schema hschema _ (Json.mem_referenceNames.2 hmentions) hname

theorem Covers.of_subset {names : Set String} (h : g.Covers more names)
    (hmore : ∀ name ∈ g.names, name ∈ seeds → name ∈ more) : g.Covers seeds names where
  seeds name hseed hname := h.seeds name (hmore name hname hseed) hname
  targets := h.targets

/-! ### Laws of the closure -/

theorem mem_names_of_reachable {name : String} (h : g.Reachable seeds name) : name ∈ g.names := by
  cases h with
  | seed _ hname => exact hname
  | step _ hedge => exact mem_names_of_mem_refsOut hedge

theorem isLeast_closure (g : ReferenceGraph) (seeds : List String) :
    IsLeast {names | g.Covers seeds names} {name | name ∈ g.closure seeds} := by
  have hreachable : {name | name ∈ g.closure seeds} = {name | g.Reachable seeds name} :=
    Set.ext fun name => mem_closure
  rw [hreachable]
  exact ⟨covers_reachable, fun names hcovers name h => h.mem_of_covers hcovers⟩

/-- The targets of the edges from a schema are what it refers to. -/
theorem covers_iff_coversEdges (h : Ascending g.schemas) {names : Set String} :
    g.Covers seeds names ↔ g.CoversEdges seeds names := by
  have hedges : ∀ {source target : String}, target ∈ g.refsOut source ↔
      ∃ edge ∈ g.edges, edge.source = source ∧ edge.target = target := by
    intro source target
    rw [refsOut_eq_targets h]
    simp only [mem_nameSet, List.mem_map, List.mem_filter, beq_iff_eq, and_assoc]
  constructor
  · refine fun hcovers => ⟨hcovers.seeds, fun edge hedge hsource => ?_⟩
    obtain ⟨schema, hschema, hmentions, hname⟩ := mem_refsOut.1 (hedges.2 ⟨edge, hedge, rfl, rfl⟩)
    exact hcovers.targets _ hsource schema hschema _ (Json.mem_referenceNames.2 hmentions) hname
  · refine fun hcovers => ⟨hcovers.seeds, ?_⟩
    intro source hsource schema hschema target htarget hname
    obtain ⟨edge, hedge, rfl, rfl⟩ :=
      hedges.1 (mem_refsOut.2 ⟨schema, hschema, Json.mem_referenceNames.1 htarget, hname⟩)
    exact hcovers.targets edge hedge hsource

theorem isLeast_closure_edges (h : Ascending g.schemas) (seeds : List String) :
    IsLeast {names | g.CoversEdges seeds names} {name | name ∈ g.closure seeds} := by
  simp only [← covers_iff_coversEdges h]
  exact isLeast_closure g seeds

theorem closure_subset (hmore : ∀ name ∈ g.names, name ∈ seeds → name ∈ more) :
    g.closure seeds ⊆ g.closure more := by
  intro name hname
  have hcovers : g.Covers seeds {name | name ∈ g.closure more} :=
    (isLeast_closure g more).1.of_subset hmore
  exact (mem_closure.1 hname).mem_of_covers hcovers

theorem closure_eq_of_mem_iff {names : List String} (hnames : names.Pairwise (· < ·))
    (h : ∀ name, name ∈ names ↔ name ∈ g.closure seeds) : names = g.closure seeds :=
  hnames.eq_of_mem_iff (pairwise_closure g seeds) h

/-- Only the seeds that are schemas count. -/
theorem closure_congr (h : ∀ name ∈ g.names, name ∈ more ↔ name ∈ seeds) :
    g.closure more = g.closure seeds := by
  refine closure_eq_of_mem_iff (pairwise_closure g more) fun name => ⟨?_, ?_⟩
  · exact fun hname => closure_subset (fun other hother => (h other hother).1) hname
  · exact fun hname => closure_subset (fun other hother => (h other hother).2) hname

theorem closure_closure (g : ReferenceGraph) (seeds : List String) :
    g.closure (g.closure seeds) = g.closure seeds := by
  refine closure_eq_of_mem_iff (pairwise_closure g _) fun name => ⟨fun hname => ?_, fun hname => ?_⟩
  · -- The closure covers itself, since it has the targets already.
    have hcovers : g.Covers (g.closure seeds) {name | name ∈ g.closure seeds} :=
      ⟨fun _ hseed _ => hseed, (isLeast_closure g seeds).1.targets⟩
    exact (mem_closure.1 hname).mem_of_covers hcovers
  · exact mem_closure.2 (.seed hname (mem_names_of_reachable (mem_closure.1 hname)))

theorem closure_eq_nil_iff : g.closure seeds = [] ↔ ∀ name ∈ seeds, name ∉ g.names := by
  constructor
  · intro hnil name hseed hname
    have hmem : name ∈ g.closure seeds := mem_closure.2 (.seed hseed hname)
    rw [hnil] at hmem
    cases hmem
  · intro h
    have hcovers : g.Covers seeds ∅ :=
      ⟨fun name hseed hname => absurd hname (h name hseed), fun _ hsource => hsource.elim⟩
    exact List.eq_nil_iff_forall_not_mem.2 fun name hname =>
      (mem_closure.1 hname).mem_of_covers hcovers

/-- **The closure of seeds is the least set of schemas that holds the seeds and is closed under
references**, in ascending order. -/
theorem closure_isLeast (g : ReferenceGraph) (seeds : List String) :
    g.IsClosureOf seeds (g.closure seeds) where
  ascending := pairwise_closure g seeds
  schemas _ hname := mem_names_of_reachable (mem_closure.1 hname)
  least := isLeast_closure g seeds
  single := nodup_ends_edges g
  followed := refsOut_eq_targets
  leastEdges h := isLeast_closure_edges h seeds
  unordered _ h := closure_congr h
  monotone _ hmore := closure_subset hmore
  idempotent := closure_closure g seeds
  empty := closure_eq_nil_iff

/-- The seeds lead through a cycle; a name that is no schema and a repetition make no difference. -/
example : closure ⟨[("A", .object [("$ref", .text "#/components/schemas/B")]),
    ("B", .list [.object [("$ref", .text "#/components/schemas/A")]]), ("C", .object [])]⟩
    ["B", "None", "B"] = ["A", "B"] := by
  cbv

end ReferenceGraph

end ApiModels
