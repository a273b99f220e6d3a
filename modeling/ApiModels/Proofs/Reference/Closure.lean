import ApiModels.Proofs.Keyed.Lookup
import ApiModels.Proofs.Reference.Mention
import ApiModels.Reference.Graph

/-!
# The closure is reachability

`ReferenceGraph.Reachable` says which schemas a list of seeds leads to. The closure of the seeds is
exactly the list of these, in ascending order (`mem_closure`, `pairwise_closure`). The proof follows
the worklist: `Worklist` is what holds between two of its steps, and `Worklist.visit` says that it
holds with an empty worklist at the end.
-/

namespace ApiModels

namespace ReferenceGraph

variable {g : ReferenceGraph} {seeds visited todo : List String}

/-! ### Edges -/

theorem mem_refsOut {source target : String} : target ∈ g.refsOut source ↔
    ∃ schema, g.get? source = some schema ∧ schema.Mentions target ∧ target ∈ g.names := by
  unfold refsOut
  cases hschema : g.get? source with
  | none => simp
  | some schema =>
    simp only [mem_nameSet, List.mem_filter, Json.mem_referenceNames, contains,
      List.contains_iff_mem, Option.some.injEq, exists_eq_left']

theorem mem_names_of_mem_refsOut {source target : String} (h : target ∈ g.refsOut source) :
    target ∈ g.names := by
  obtain ⟨_, -, -, htarget⟩ := mem_refsOut.1 h
  exact htarget

/-! ### Reachability -/

/-- A schema to which the seeds lead along the edges. -/
inductive Reachable (g : ReferenceGraph) (seeds : List String) : String → Prop
  | seed {name : String} : name ∈ seeds → name ∈ g.names → Reachable g seeds name
  | step {source target : String} : Reachable g seeds source → target ∈ g.refsOut source →
    Reachable g seeds target

/-- What holds of a worklist between two steps: only reachable schemas are visited or waited for,
and the seeds and the ends of all edges from visited schemas are among them. -/
structure Worklist (g : ReferenceGraph) (seeds visited todo : List String) : Prop where
  ascending : visited.Pairwise (· < ·)
  visitedReachable : ∀ name ∈ visited, g.Reachable seeds name
  todoReachable : ∀ name ∈ todo, name ∈ g.names → g.Reachable seeds name
  seedsCovered : ∀ name ∈ seeds, name ∈ g.names → name ∈ visited ∨ name ∈ todo
  edgesCovered : ∀ source ∈ visited, ∀ target ∈ g.refsOut source, target ∈ visited ∨ target ∈ todo

namespace Worklist

theorem start (g : ReferenceGraph) (seeds : List String) : Worklist g seeds [] seeds := by
  refine ⟨List.Pairwise.nil, ?_, ?_, ?_, ?_⟩
  · intro name hname
    cases hname
  · intro name hseed hname
    exact .seed hseed hname
  · intro name hseed _
    exact .inr hseed
  · intro source hsource
    cases hsource

/-- A new schema is visited, and what it refers to has to be visited too. -/
theorem enter {name : String} (h : Worklist g seeds visited (name :: todo))
    (hname : name ∈ g.names) :
    Worklist g seeds (insertName name visited) (g.refsOut name ++ todo) := by
  have hreachable : g.Reachable seeds name := h.todoReachable name List.mem_cons_self hname
  have hcovered : ∀ {other}, other ∈ visited ∨ other ∈ name :: todo →
      other ∈ insertName name visited ∨ other ∈ g.refsOut name ++ todo := by
    intro other hother
    rw [mem_insertName, List.mem_append]
    rcases hother with hvisited | htodo
    · exact .inl (.inr hvisited)
    · rcases List.mem_cons.1 htodo with rfl | htodo
      · exact .inl (.inl rfl)
      · exact .inr (.inr htodo)
  refine ⟨pairwise_insertName h.ascending, ?_, ?_, ?_, ?_⟩
  · intro other hother
    rcases mem_insertName.1 hother with rfl | hother
    · exact hreachable
    · exact h.visitedReachable other hother
  · intro other hother hnames
    rcases List.mem_append.1 hother with hedge | htodo
    · exact .step hreachable hedge
    · exact h.todoReachable other (List.mem_cons_of_mem name htodo) hnames
  · exact fun other hseed hnames => hcovered (h.seedsCovered other hseed hnames)
  · intro source hsource target htarget
    rcases mem_insertName.1 hsource with rfl | hsource
    · exact .inr (List.mem_append_left todo htarget)
    · exact hcovered (h.edgesCovered source hsource target htarget)

/-- A name that is no schema or was visited before is dropped. -/
theorem skip {name : String} (h : Worklist g seeds visited (name :: todo))
    (hname : name ∈ g.names → name ∈ visited) : Worklist g seeds visited todo := by
  have hcovered : ∀ {other}, other ∈ g.names → other ∈ visited ∨ other ∈ name :: todo →
      other ∈ visited ∨ other ∈ todo := by
    intro other hnames hother
    rcases hother with hvisited | htodo
    · exact .inl hvisited
    · rcases List.mem_cons.1 htodo with rfl | htodo
      · exact .inl (hname hnames)
      · exact .inr htodo
  refine ⟨h.ascending, h.visitedReachable, ?_, ?_, ?_⟩
  · exact fun other htodo => h.todoReachable other (List.mem_cons_of_mem name htodo)
  · exact fun other hseed hnames => hcovered hnames (h.seedsCovered other hseed hnames)
  · exact fun source hsource target htarget =>
      hcovered (mem_names_of_mem_refsOut htarget) (h.edgesCovered source hsource target htarget)

theorem visit (h : Worklist g seeds visited todo) :
    Worklist g seeds (g.visit visited todo) [] := by
  induction visited, todo using ReferenceGraph.visit.induct g with
  | case1 visited =>
    rw [ReferenceGraph.visit]
    exact h
  | case2 visited name todo hnew ih =>
    rw [ReferenceGraph.visit, if_pos hnew]
    exact ih (h.enter hnew.1)
  | case3 visited name todo hold ih =>
    rw [ReferenceGraph.visit, if_neg hold]
    refine ih (h.skip fun hname => ?_)
    exact Decidable.not_not.1 fun hvisited => hold ⟨hname, hvisited⟩

end Worklist

theorem worklist_closure (g : ReferenceGraph) (seeds : List String) :
    Worklist g seeds (g.closure seeds) [] := (Worklist.start g seeds).visit

/-- **The closure is reachability.** -/
theorem mem_closure {name : String} : name ∈ g.closure seeds ↔ g.Reachable seeds name := by
  have hclosure := worklist_closure g seeds
  refine ⟨hclosure.visitedReachable name, fun h => ?_⟩
  -- No name is left to visit, so what is covered is visited.
  have hvisited : ∀ {other}, other ∈ g.closure seeds ∨ other ∈ [] → other ∈ g.closure seeds :=
    fun h => h.resolve_right List.not_mem_nil
  induction h with
  | seed hseed hname => exact hvisited (hclosure.seedsCovered _ hseed hname)
  | step _ hedge ih => exact hvisited (hclosure.edgesCovered _ ih _ hedge)

theorem pairwise_closure (g : ReferenceGraph) (seeds : List String) :
    (g.closure seeds).Pairwise (· < ·) := (worklist_closure g seeds).ascending

end ReferenceGraph

end ApiModels
