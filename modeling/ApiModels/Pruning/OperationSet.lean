import ApiModels.Json.Basic

/-!
# Sets of operation paths

The paths that a pruning is to keep, in ascending order.
-/

namespace ApiModels

/-- A set of operation paths. -/
structure OperationSet where
  /-- The paths in ascending order. -/
  paths : List String
  /-- The paths ascend strictly. -/
  ascending : paths.Pairwise (· < ·)

namespace OperationSet

/-- The set of the paths of a list. -/
def ofList (paths : List String) : OperationSet := ⟨nameSet paths, pairwise_nameSet paths⟩

/-- Whether a path is in the set. -/
def contains (s : OperationSet) (path : String) : Bool := s.paths.contains path

/-- The number of paths. -/
def size (s : OperationSet) : Nat := s.paths.length

/-- Whether there is no path. -/
def isEmpty (s : OperationSet) : Bool := s.paths.isEmpty

/-- The set as a JSON value. -/
def toJson (s : OperationSet) : Json := .object [("paths", .ofTexts s.paths)]

@[simp] theorem contains_ofList {paths : List String} {path : String} :
    (ofList paths).contains path = true ↔ path ∈ paths := by
  simp [ofList, contains]

end OperationSet

end ApiModels
