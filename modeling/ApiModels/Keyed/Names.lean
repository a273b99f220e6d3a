/-!
# Sorted sets of names

A set of names is the list of its members in strictly ascending order; names are compared
character by character, by code point. `nameSet` sorts a list of names and drops repetitions:
`mem_nameSet` says that it keeps exactly the names of the list, `pairwise_nameSet` that the result
is strictly ascending.
-/

namespace ApiModels

/-- A name put into its place in a strictly ascending list, unless it is there already. -/
def insertName (name : String) : List String → List String
  | [] => [name]
  | head :: tail =>
    if name < head then name :: head :: tail
    else if name = head then head :: tail
    else head :: insertName name tail

/-- The names of a list in strictly ascending order. -/
def nameSet (names : List String) : List String := names.foldr insertName []

@[simp] theorem mem_insertName {name other : String} {names : List String} :
    other ∈ insertName name names ↔ other = name ∨ other ∈ names := by
  induction names with
  | nil => simp [insertName]
  | cons head tail ih =>
    rw [insertName]
    split
    · simp
    · split
      · next h => simp [h]
      · simp [ih, or_left_comm]

@[simp] theorem mem_nameSet {name : String} {names : List String} :
    name ∈ nameSet names ↔ name ∈ names := by
  induction names with
  | nil => simp [nameSet]
  | cons head tail ih =>
    rw [show nameSet (head :: tail) = insertName head (nameSet tail) from rfl, mem_insertName,
      List.mem_cons, ih]

theorem pairwise_insertName {name : String} {names : List String}
    (h : names.Pairwise (· < ·)) : (insertName name names).Pairwise (· < ·) := by
  induction names with
  | nil => simp [insertName]
  | cons head tail ih =>
    rw [List.pairwise_cons] at h
    rw [insertName]
    split
    · next hlt =>
      refine List.pairwise_cons.2 ⟨fun x hx => ?_, List.pairwise_cons.2 h⟩
      rcases List.mem_cons.1 hx with rfl | hx
      · exact hlt
      · exact String.lt_trans hlt (h.1 x hx)
    · split
      · exact List.pairwise_cons.2 h
      · next hlt hne =>
        refine List.pairwise_cons.2 ⟨fun x hx => ?_, ih h.2⟩
        rcases mem_insertName.1 hx with rfl | hx
        · exact (Std.lt_of_le_of_ne (String.not_lt.1 hlt) (Ne.symm hne))
        · exact h.1 x hx

theorem pairwise_nameSet (names : List String) : (nameSet names).Pairwise (· < ·) := by
  induction names with
  | nil => simp [nameSet]
  | cons head tail ih => exact pairwise_insertName ih

end ApiModels
