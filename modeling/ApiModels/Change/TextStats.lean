import ApiModels.Text.Lines

/-!
# Changes of a text

How many lines a shortest script of insertions and deletions inserts and deletes to turn one text
into another. It keeps a longest common subsequence of the lines. A line has its terminator, so
texts with the same lines are equal.
-/

namespace ApiModels

/-- Numbers of inserted and deleted lines. -/
structure TextStats where
  insertions : Nat
  deletions : Nat
  deriving DecidableEq, Repr

/-- Whether lines were inserted or deleted. -/
def TextStats.changed (s : TextStats) : Bool := 0 < s.insertions || 0 < s.deletions

/-! ### Longest common subsequences -/

variable {α : Type} [DecidableEq α]

/-- The lengths of longest common subsequences of `x :: xs` with every suffix of a list, the longest
suffix first, from those of `xs`. -/
def commonLengthsCons (x : α) : List α → List Nat → List Nat
  | y :: ys, here :: below =>
    let rest := commonLengthsCons x ys below
    (if x = y then below.headD 0 + 1 else max here (rest.headD 0)) :: rest
  | _, lengths => lengths

/-- The lengths of longest common subsequences of a list with every suffix of another, the longest
suffix first. -/
def commonLengths (ys : List α) : List α → List Nat
  | [] => List.replicate (ys.length + 1) 0
  | x :: xs => commonLengthsCons x ys (commonLengths ys xs)

/-- The length of a longest common subsequence of two lists. -/
def commonLength (xs ys : List α) : Nat := (commonLengths ys xs).headD 0

/-! ### Texts -/

/-- The changes from one text to another. -/
def textChanges (old new : String) : TextStats :=
  let oldLines := Text.terminatedLines old.toList
  let newLines := Text.terminatedLines new.toList
  let common := commonLength oldLines newLines
  ⟨newLines.length - common, oldLines.length - common⟩

end ApiModels
