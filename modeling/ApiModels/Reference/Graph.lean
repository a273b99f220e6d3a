import ApiModels.Document
import ApiModels.Reference.Basic

/-!
# The graph of references

The nodes are the named schemas of a document, in ascending order. There is an edge from one to
another if a reference to the second stands in the first, and only one however many references there
are. A reference to a name that is no schema is dangling.

`closure` follows the edges from a list of seeds with a worklist. It terminates on cycles, since a
step either visits one more schema or shortens the worklist.
-/

namespace ApiModels

/-- An edge: in the definition of one schema another one is referred to. -/
structure ReferenceEdge where
  source : String
  target : String
  /-- Where the first such reference stands. -/
  site : ReferenceSite
  deriving DecidableEq, Repr

/-- The schemas that an edge connects. -/
def ReferenceEdge.ends (e : ReferenceEdge) : String × String := (e.source, e.target)

/-- The named schemas with their definitions, which hold the references between them. -/
structure ReferenceGraph where
  schemas : List (String × Json)

namespace ReferenceGraph

/-- The graph of the schemas of a document. -/
def ofDocument (d : Document) : ReferenceGraph := ⟨d.schemas⟩

variable (g : ReferenceGraph)

/-- The definition of a schema. -/
def get? (name : String) : Option Json := g.schemas.lookup name

/-- The names of the schemas. -/
def names : List String := g.schemas.map (·.1)

/-- Whether a name is that of a schema. -/
def contains (name : String) : Bool := g.names.contains name

/-- The schemas that a schema refers to, in ascending order. -/
def refsOut (name : String) : List String :=
  match g.get? name with
  | none => []
  | some schema => nameSet (schema.referenceNames.filter g.contains)

/-- The edges with the one that a reference in the definition of a schema makes: none if its target
is no schema, or if there is an edge between the two already. -/
def addEdge (source : String) (edges : List ReferenceEdge) (reference : String × ReferenceSite) :
    List ReferenceEdge :=
  if g.contains reference.1 && !(edges.map (·.ends)).contains (source, reference.1) then
    edges ++ [⟨source, reference.1, reference.2⟩]
  else edges

/-- The edges with those that the references in a schema make, in the order of the walk. -/
def addEdges (edges : List ReferenceEdge) (schema : String × Json) : List ReferenceEdge :=
  schema.2.references.foldl (g.addEdge schema.1) edges

/-- The edges, schema by schema. -/
def edges : List ReferenceEdge := g.schemas.foldl g.addEdges []

/-- The schemas that refer to a schema, in ascending order. -/
def refsIn (name : String) : List String :=
  nameSet ((g.edges.filter (·.target == name)).map (·.source))

/-- The number of edges. -/
def edgeCount : Nat := g.edges.length

/-- The references to names that are no schemas, as pairs of a schema and the name. -/
def dangling : List (String × String) :=
  g.schemas.flatMap fun (source, schema) =>
    (nameSet (schema.referenceNames.filter (!g.contains ·))).map (source, ·)

/-! ### Closure -/

/-- The schemas that have not been visited. -/
def unvisited (visited : List String) : List String := g.names.filter (· ∉ visited)

theorem length_unvisited_insertName_lt {visited : List String} {name : String}
    (hname : name ∈ g.names) (hnew : name ∉ visited) :
    (g.unvisited (insertName name visited)).length < (g.unvisited visited).length := by
  have heq : g.unvisited (insertName name visited) =
      (g.unvisited visited).filter (· ≠ name) := by
    simp only [unvisited, List.filter_filter]
    exact List.filter_congr fun x _ => by simp [not_or]
  rw [heq]
  exact List.length_filter_lt_length_iff_exists.2
    ⟨name, List.mem_filter.2 ⟨hname, by simp [hnew]⟩, by simp⟩

/-- Visits the schemas of a worklist and all that they lead to. -/
def visit (visited : List String) : List String → List String
  | [] => visited
  | name :: todo =>
    if name ∈ g.names ∧ name ∉ visited then
      visit (insertName name visited) (g.refsOut name ++ todo)
    else visit visited todo
termination_by todo => ((g.unvisited visited).length, todo.length)
decreasing_by
  · exact Prod.Lex.left _ _ (g.length_unvisited_insertName_lt ‹_ ∧ _›.1 ‹_ ∧ _›.2)
  · exact Prod.Lex.right _ (Nat.lt_succ_self _)

/-- The schemas that can be reached from seeds, in ascending order, with the seeds that are
schemas. -/
def closure (seeds : List String) : List String := g.visit [] seeds

end ReferenceGraph

end ApiModels
