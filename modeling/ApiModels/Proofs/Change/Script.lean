import ApiModels.Change.TextStats
import Mathlib.Data.List.Basic

/-!
# Scripts of insertions and deletions

A script turns one list into another: it keeps, inserts and deletes items, in the order of the
lists. What it keeps is a sublist of both (`kept_sublist`), and every sublist of both is kept by
some script (`exists_turns_of_sublist`). So a script is shortest exactly if what it keeps is a
longest common subsequence (`isShortest_iff`), of which `commonLength` is the length
(`length_le_commonLength`, `exists_sublist_commonLength`), and all shortest scripts insert and
delete equally many items (`stats_of_isShortest`).
-/

namespace ApiModels

/-! ### Longest common subsequences -/

section CommonLength

variable {α : Type} [DecidableEq α] {l xs ys : List α}

/-- The lengths for a list are the one for the list and those for its tail. -/
theorem commonLengths_cons (y : α) (ys xs : List α) :
    commonLengths (y :: ys) xs = commonLength xs (y :: ys) :: commonLengths ys xs := by
  induction xs with
  | nil => rfl
  | cons x xs ih =>
    unfold commonLength
    rw [commonLengths, ih, commonLengthsCons, List.headD_cons]
    rfl

theorem commonLength_nil_right (xs : List α) : commonLength xs [] = 0 := by
  unfold commonLength
  induction xs with
  | nil => rfl
  | cons x xs ih =>
    rw [commonLengths]
    exact ih

/-- The first items are matched if they are the same; else one of them is left out. -/
theorem commonLength_cons_cons (x y : α) (xs ys : List α) :
    commonLength (x :: xs) (y :: ys) = if x = y then commonLength xs ys + 1
      else max (commonLength xs (y :: ys)) (commonLength (x :: xs) ys) := by
  rw [commonLength, commonLengths, commonLengths_cons, commonLengthsCons, List.headD_cons]
  rfl

/-- **No common subsequence is longer.** -/
theorem length_le_commonLength (hxs : l.Sublist xs) (hys : l.Sublist ys) :
    l.length ≤ commonLength xs ys := by
  induction xs generalizing l ys with
  | nil =>
    rw [List.sublist_nil.1 hxs]
    exact Nat.zero_le _
  | cons x xs ihx =>
    induction ys generalizing l with
    | nil =>
      rw [List.sublist_nil.1 hys]
      exact Nat.zero_le _
    | cons y ys ihy =>
      rw [commonLength_cons_cons]
      split
      · -- Without its first item it is a subsequence of both tails.
        have htail : l.tail.length ≤ commonLength xs ys := ihx hxs.tail hys.tail
        rw [List.length_tail] at htail
        omega
      · next hne =>
        -- One of the first items is not matched, for they differ.
        cases hxs with
        | cons _ hxs => exact Nat.le_trans (ihx hxs hys) (Nat.le_max_left _ _)
        | cons_cons _ hxs =>
          cases hys with
          | cons _ hys => exact Nat.le_trans (ihy (hxs.cons_cons x) hys) (Nat.le_max_right _ _)
          | cons_cons => exact absurd rfl hne

/-- **A common subsequence has that length.** -/
theorem exists_sublist_commonLength (xs ys : List α) :
    ∃ l : List α, l.Sublist xs ∧ l.Sublist ys ∧ l.length = commonLength xs ys := by
  induction xs generalizing ys with
  | nil => exact ⟨[], List.nil_sublist _, List.nil_sublist _, rfl⟩
  | cons x xs ihx =>
    induction ys with
    | nil => exact ⟨[], List.nil_sublist _, List.nil_sublist _, (commonLength_nil_right _).symm⟩
    | cons y ys ihy =>
      rw [commonLength_cons_cons]
      split
      · next heq =>
        obtain ⟨l, hxs, hys, hlength⟩ := ihx ys
        exact ⟨x :: l, hxs.cons_cons x, heq ▸ hys.cons_cons x, congrArg (· + 1) hlength⟩
      · rcases Nat.le_total (commonLength xs (y :: ys)) (commonLength (x :: xs) ys) with hle | hle
        · obtain ⟨l, hxs, hys, hlength⟩ := ihy
          exact ⟨l, hxs, hys.cons y, by rw [Nat.max_eq_right hle, hlength]⟩
        · obtain ⟨l, hxs, hys, hlength⟩ := ihx (y :: ys)
          exact ⟨l, hxs.cons x, hys, by rw [Nat.max_eq_left hle, hlength]⟩

theorem commonLength_le_length (xs ys : List α) :
    commonLength xs ys ≤ xs.length ∧ commonLength xs ys ≤ ys.length := by
  obtain ⟨l, hxs, hys, hlength⟩ := exists_sublist_commonLength xs ys
  exact hlength ▸ ⟨hxs.length_le, hys.length_le⟩

theorem commonLength_comm (xs ys : List α) : commonLength xs ys = commonLength ys xs := by
  have hle : ∀ xs ys : List α, commonLength xs ys ≤ commonLength ys xs := by
    intro xs ys
    obtain ⟨l, hxs, hys, hlength⟩ := exists_sublist_commonLength xs ys
    exact hlength ▸ length_le_commonLength hys hxs
  exact Nat.le_antisymm (hle xs ys) (hle ys xs)

/-- **Only of two equal lists all is common.** -/
theorem length_eq_commonLength_iff :
    xs.length = commonLength xs ys ∧ ys.length = commonLength xs ys ↔ xs = ys := by
  constructor
  · rintro ⟨hx, hy⟩
    obtain ⟨l, hxs, hys, hlength⟩ := exists_sublist_commonLength xs ys
    exact (hxs.eq_of_length (hlength.trans hx.symm)).symm.trans
      (hys.eq_of_length (hlength.trans hy.symm))
  · rintro rfl
    have hle := length_le_commonLength (List.Sublist.refl xs) (List.Sublist.refl xs)
    have heq := Nat.le_antisymm hle (commonLength_le_length xs xs).1
    exact ⟨heq, heq⟩

end CommonLength

/-! ### Scripts -/

/-- What a script does with an item. -/
inductive Edit (α : Type) where
  | keep (item : α)
  | insert (item : α)
  | delete (item : α)
  deriving DecidableEq, Repr

namespace Edit

variable {α : Type}

/-- The item, if it is in the first list. -/
def old? : Edit α → Option α
  | .keep item => some item
  | .insert _ => none
  | .delete item => some item

/-- The item, if it is in the second list. -/
def new? : Edit α → Option α
  | .keep item => some item
  | .insert item => some item
  | .delete _ => none

/-- The item, if it is in both lists. -/
def kept? : Edit α → Option α
  | .keep item => some item
  | .insert _ => none
  | .delete _ => none

/-- The items that a script keeps. -/
def kept (script : List (Edit α)) : List α := script.filterMap kept?

/-- The numbers of items that a script inserts and deletes. -/
def stats : List (Edit α) → TextStats
  | [] => ⟨0, 0⟩
  | .keep _ :: script => stats script
  | .insert _ :: script => { stats script with insertions := (stats script).insertions + 1 }
  | .delete _ :: script => { stats script with deletions := (stats script).deletions + 1 }

/-- The number of items that are not kept. -/
def cost (script : List (Edit α)) : Nat := (stats script).insertions + (stats script).deletions

/-- The script turns the first list into the second one. -/
structure Turns (script : List (Edit α)) (xs ys : List α) : Prop where
  old : script.filterMap old? = xs
  new : script.filterMap new? = ys

/-- No script inserts and deletes fewer items. -/
structure IsShortest (script : List (Edit α)) (xs ys : List α) : Prop where
  turns : Turns script xs ys
  least : ∀ other, Turns other xs ys → cost script ≤ cost other

variable {script : List (Edit α)} {l xs ys : List α}

/-- What is not kept of the first list is deleted, and what is not of the second is inserted. -/
theorem length_kept (script : List (Edit α)) :
    (kept script).length + (stats script).deletions = (script.filterMap old?).length ∧
      (kept script).length + (stats script).insertions = (script.filterMap new?).length := by
  induction script with
  | nil => exact ⟨rfl, rfl⟩
  | cons edit script ih =>
    unfold kept at ih ⊢
    obtain ⟨hold, hnew⟩ := ih
    cases edit <;> simp only [List.filterMap_cons, old?, new?, kept?, stats, List.length_cons] <;>
      omega

theorem Turns.length_kept (h : Turns script xs ys) :
    (kept script).length + (stats script).deletions = xs.length ∧
      (kept script).length + (stats script).insertions = ys.length := by
  have hlength := Edit.length_kept script
  rwa [h.old, h.new] at hlength

theorem kept_sublist (script : List (Edit α)) :
    (kept script).Sublist (script.filterMap old?) ∧
      (kept script).Sublist (script.filterMap new?) := by
  induction script with
  | nil => exact ⟨.slnil, .slnil⟩
  | cons edit script ih =>
    obtain ⟨hold, hnew⟩ := ih
    cases edit with
    | keep item => exact ⟨hold.cons_cons item, hnew.cons_cons item⟩
    | insert item => exact ⟨hold, hnew.cons item⟩
    | delete item => exact ⟨hold.cons item, hnew⟩

/-- Items that stand before those of the second list are inserted. -/
theorem Turns.insertions_append (h : Turns script xs ys) (before : List α) :
    Turns (before.map .insert ++ script) xs (before ++ ys) ∧
      kept (before.map .insert ++ script) = kept script := by
  induction before with
  | nil => exact ⟨h, rfl⟩
  | cons item before ih =>
    obtain ⟨hturns, hkept⟩ := ih
    exact ⟨⟨hturns.old, congrArg (List.cons item) hturns.new⟩, hkept⟩

/-- **Whatever is common to both lists, some script keeps it.** -/
theorem exists_turns_of_sublist (hxs : l.Sublist xs) (hys : l.Sublist ys) :
    ∃ script, Turns script xs ys ∧ kept script = l := by
  induction hxs generalizing ys with
  | slnil =>
    have hnone : Turns ([] : List (Edit α)) [] [] := ⟨rfl, rfl⟩
    obtain ⟨hturns, hkept⟩ := hnone.insertions_append ys
    rw [List.append_nil ys] at hturns
    exact ⟨_, hturns, hkept⟩
  | cons a _ ih =>
    obtain ⟨script, hturns, hkept⟩ := ih hys
    exact ⟨.delete a :: script, ⟨congrArg (List.cons a) hturns.old, hturns.new⟩, hkept⟩
  | @cons_cons l xs a _ ih =>
    -- The items before the one that is matched are inserted.
    obtain ⟨before, after, rfl, hmem, hrest⟩ := List.cons_sublist_iff.1 hys
    obtain ⟨front, back, rfl⟩ := List.append_of_mem hmem
    obtain ⟨script, hturns, hkept⟩ := ih (hrest.trans (List.sublist_append_right back after))
    have hmatched : Turns (.keep a :: script) (a :: xs) (a :: (back ++ after)) :=
      ⟨congrArg (List.cons a) hturns.old, congrArg (List.cons a) hturns.new⟩
    obtain ⟨hall, hsame⟩ := hmatched.insertions_append front
    refine ⟨_, ?_, hsame.trans (congrArg (List.cons a) hkept)⟩
    rwa [List.append_assoc, List.cons_append]

/-! ### Shortest scripts -/

variable [DecidableEq α]

theorem Turns.length_kept_le (h : Turns script xs ys) :
    (kept script).length ≤ commonLength xs ys := by
  obtain ⟨hold, hnew⟩ := kept_sublist script
  rw [h.old] at hold
  rw [h.new] at hnew
  exact length_le_commonLength hold hnew

/-- **A script is shortest if it keeps as many items as are common**, and only then. -/
theorem isShortest_iff : IsShortest script xs ys ↔
    Turns script xs ys ∧ (kept script).length = commonLength xs ys := by
  constructor
  · rintro ⟨hturns, hleast⟩
    obtain ⟨l, hxs, hys, hlength⟩ := exists_sublist_commonLength xs ys
    obtain ⟨other, hother, rfl⟩ := exists_turns_of_sublist hxs hys
    have hle := hleast other hother
    have hmost := hturns.length_kept_le
    have hscript := hturns.length_kept
    have hcounts := hother.length_kept
    unfold cost at hle
    exact ⟨hturns, by omega⟩
  · rintro ⟨hturns, hkept⟩
    refine ⟨hturns, fun other hother => ?_⟩
    have hmost := hother.length_kept_le
    have hscript := hturns.length_kept
    have hcounts := hother.length_kept
    unfold cost
    omega

theorem exists_isShortest (xs ys : List α) : ∃ script, IsShortest script xs ys := by
  obtain ⟨l, hxs, hys, hlength⟩ := exists_sublist_commonLength xs ys
  obtain ⟨script, hturns, rfl⟩ := exists_turns_of_sublist hxs hys
  exact ⟨script, isShortest_iff.2 ⟨hturns, hlength⟩⟩

/-- **All shortest scripts insert and delete equally many items.** -/
theorem stats_of_isShortest (h : IsShortest script xs ys) :
    stats script = ⟨ys.length - commonLength xs ys, xs.length - commonLength xs ys⟩ := by
  obtain ⟨hturns, hkept⟩ := isShortest_iff.1 h
  obtain ⟨hold, hnew⟩ := hturns.length_kept
  have hinsertions : (stats script).insertions = ys.length - commonLength xs ys := by omega
  have hdeletions : (stats script).deletions = xs.length - commonLength xs ys := by omega
  rw [← hinsertions, ← hdeletions]

end Edit

end ApiModels
