import ApiModels.Proofs.Text.Blank
import Mathlib.Data.List.Chain
import Mathlib.Data.List.Pairwise
import Mathlib.Data.List.TakeWhile

/-!
# Texts in one line

A text is in one line if its blanks are spaces, each between two characters that are none
(`IsOneLine`). Words that are joined by spaces are such a text (`isOneLine_join`), and are its words
again (`words_join`). What is left of such a text when it is cut and trimmed is in one line too
(`IsOneLine.trimEnd_take`), and the trimming removes no more than one space
(`IsOneLine.take_cases`).
-/

namespace ApiModels.Text

/-- Words with single spaces between them. -/
structure IsOneLine (cs : List Char) : Prop where
  ne_nil : cs ≠ []
  noBlankAtStart : ∀ c ∈ cs.head?, isBlank c = false
  noBlankAtEnd : ∀ c ∈ cs.getLast?, isBlank c = false
  /-- The only blank is the space. -/
  eq_space : ∀ c ∈ cs, isBlank c = true → c = ' '
  /-- Of two neighbours one is no blank. -/
  single : cs.IsChain fun c d => isBlank c = false ∨ isBlank d = false

/-! ### Words that are joined -/

theorem isOneLine_of_not_blank {cs : List Char} (hne : cs ≠ []) (h : ∀ c ∈ cs, isBlank c = false) :
    IsOneLine cs where
  ne_nil := hne
  noBlankAtStart := fun c hc => h c (List.mem_of_head? hc)
  noBlankAtEnd := fun c hc => h c (List.mem_of_getLast? hc)
  eq_space := fun c hc hblank => absurd hblank (ne_true_of_eq_false (h c hc))
  single := (List.pairwise_of_forall_mem_list fun c hc _ _ => .inl (h c hc)).isChain

section Append

variable {cs ds : List Char}

theorem ends_append (hcs : IsOneLine cs) (hds : IsOneLine ds) (between : List Char) :
    (∀ c ∈ (cs ++ between ++ ds).head?, isBlank c = false) ∧
      ∀ c ∈ (cs ++ between ++ ds).getLast?, isBlank c = false := by
  constructor
  · rw [List.append_assoc, List.head?_append, List.head?_eq_some_head hcs.ne_nil, Option.some_or,
      ← List.head?_eq_some_head hcs.ne_nil]
    exact hcs.noBlankAtStart
  · rw [List.getLast?_append, List.getLast?_eq_some_getLast hds.ne_nil, Option.some_or,
      ← List.getLast?_eq_some_getLast hds.ne_nil]
    exact hds.noBlankAtEnd

theorem IsOneLine.append (hcs : IsOneLine cs) (hds : IsOneLine ds) : IsOneLine (cs ++ ds) := by
  obtain ⟨hstart, hend⟩ := ends_append hcs hds []
  rw [List.append_nil] at hstart hend
  refine ⟨List.append_ne_nil_of_left_ne_nil hcs.ne_nil ds, hstart, hend, fun c hc => ?_, ?_⟩
  · exact (List.mem_append.1 hc).elim (hcs.eq_space c) (hds.eq_space c)
  · exact hcs.single.append hds.single fun c hc _ _ => .inl (hcs.noBlankAtEnd c hc)

theorem IsOneLine.append_space (hcs : IsOneLine cs) (hds : IsOneLine ds) :
    IsOneLine (cs ++ [' '] ++ ds) := by
  obtain ⟨hstart, hend⟩ := ends_append hcs hds [' ']
  refine ⟨List.append_ne_nil_of_right_ne_nil _ hds.ne_nil, hstart, hend, fun c hc => ?_, ?_⟩
  · rcases List.mem_append.1 hc with hc | hc
    · rcases List.mem_append.1 hc with hc | hc
      · exact hcs.eq_space c hc
      · exact fun _ => List.mem_singleton.1 hc
    · exact hds.eq_space c hc
  · have hspace : (cs ++ [' ']).IsChain fun c d => isBlank c = false ∨ isBlank d = false :=
      hcs.single.append (List.isChain_singleton ' ') fun c hc _ _ => .inl (hcs.noBlankAtEnd c hc)
    exact hspace.append hds.single fun _ _ d hd => .inr (hds.noBlankAtStart d hd)

end Append

section Join

variable {pieces : List (List Char)} (hpieces : ∀ piece ∈ pieces, piece ≠ [])
  (hwords : ∀ piece ∈ pieces, ∀ c ∈ piece, isBlank c = false)

include hwords

theorem fields_join (hne : pieces ≠ []) : fields isBlank (join [' '] pieces) = pieces := by
  induction pieces with
  | nil => exact absurd rfl hne
  | cons piece pieces ih =>
    have hpiece := hwords piece List.mem_cons_self
    cases pieces with
    | nil => exact fields_eq_singleton hpiece
    | cons other pieces =>
      have hrest := ih (fun p hp => hwords p (List.mem_cons_of_mem piece hp)) (List.cons_ne_nil _ _)
      rw [join, List.append_assoc, List.singleton_append, fields_append_cons hpiece rfl, hrest]
      exact List.cons_ne_nil _ _

include hpieces

/-- **The words of words that are joined are these words.** -/
theorem words_join : words (join [' '] pieces) = pieces := by
  cases pieces with
  | nil => rfl
  | cons piece pieces =>
    rw [words, segments, fields_join hwords (List.cons_ne_nil _ _), List.filter_eq_self]
    intro other hother
    simpa using hpieces other hother

theorem isOneLine_join (hne : pieces ≠ []) : IsOneLine (join [' '] pieces) := by
  induction pieces with
  | nil => exact absurd rfl hne
  | cons piece pieces ih =>
    have hpiece := isOneLine_of_not_blank (hpieces piece List.mem_cons_self)
      (hwords piece List.mem_cons_self)
    cases pieces with
    | nil => exact hpiece
    | cons other pieces =>
      have hrest := ih (fun p hp => hpieces p (List.mem_cons_of_mem piece hp))
        (fun p hp => hwords p (List.mem_cons_of_mem piece hp)) (List.cons_ne_nil _ _)
      rw [join]
      · exact hpiece.append_space hrest
      · exact List.cons_ne_nil _ _

end Join

/-! ### Texts that are cut -/

theorem exists_eq_trimEnd_append (cs : List Char) :
    ∃ blanks, cs = trimEnd cs ++ blanks ∧ ∀ c ∈ blanks, isBlank c = true := by
  refine ⟨(cs.reverse.takeWhile isBlank).reverse, ?_, fun c hc => ?_⟩
  · rw [trimEnd, ← List.reverse_append, List.takeWhile_append_dropWhile, List.reverse_reverse]
  · exact List.mem_takeWhile_imp (List.mem_reverse.1 hc)

namespace IsOneLine

variable {cs ds : List Char} (h : IsOneLine cs)

include h

theorem of_isPrefix (hinitial : ds <+: cs) (hne : ds ≠ [])
    (hlast : ∀ c ∈ ds.getLast?, isBlank c = false) : IsOneLine ds where
  ne_nil := hne
  noBlankAtStart := by
    obtain ⟨rest, rfl⟩ := hinitial
    have hstart := h.noBlankAtStart
    rwa [List.head?_append, List.head?_eq_some_head hne, Option.some_or,
      ← List.head?_eq_some_head hne] at hstart
  noBlankAtEnd := hlast
  eq_space := fun c hc => h.eq_space c (hinitial.subset hc)
  single := h.single.prefix hinitial

/-- **What is cut and trimmed is in one line.** -/
theorem trimEnd_take {n : Nat} (hn : 0 < n) : IsOneLine (trimEnd (cs.take n)) := by
  refine h.of_isPrefix ((trimEnd_isPrefix _).trans (List.take_prefix n cs)) (fun hnil => ?_)
    fun c => not_blank_of_mem_getLast?_trimEnd
  -- The first character is kept, since it is no blank.
  obtain ⟨blanks, hblanks, hblank⟩ := exists_eq_trimEnd_append (cs.take n)
  obtain ⟨c, rest, rfl⟩ := List.exists_cons_of_ne_nil h.ne_nil
  rw [hnil, List.nil_append] at hblanks
  have hmem : c ∈ (c :: rest).take n := by
    cases n with
    | zero => exact absurd hn (Nat.lt_irrefl 0)
    | succ n => exact List.mem_cons_self
  exact absurd (hblank c (hblanks ▸ hmem)) (ne_true_of_eq_false (h.noBlankAtStart c rfl))

/-- **A cut leaves at most one space at the end.** -/
theorem take_cases (n : Nat) :
    cs.take n = trimEnd (cs.take n) ∨ cs.take n = trimEnd (cs.take n) ++ [' '] := by
  obtain ⟨blanks, hblanks, hblank⟩ := exists_eq_trimEnd_append (cs.take n)
  have hchain := h.single.take n
  have hspace : ∀ c ∈ blanks, c = ' ' := fun c hc =>
    h.eq_space c (List.mem_of_mem_take (hblanks ▸ List.mem_append_right _ hc)) (hblank c hc)
  rw [hblanks] at hchain
  cases blanks with
  | nil => exact .inl (hblanks.trans (List.append_nil _))
  | cons first blanks =>
    have hfirst := hspace first List.mem_cons_self
    cases blanks with
    | nil => exact .inr (hfirst ▸ hblanks)
    | cons second blanks =>
      -- Two blanks would stand side by side.
      rcases (List.isChain_cons_cons.1 hchain.right_of_append).1 with hnot | hnot
      · exact absurd (hblank first List.mem_cons_self) (ne_true_of_eq_false hnot)
      · exact absurd (hblank second (List.mem_cons_of_mem first List.mem_cons_self))
          (ne_true_of_eq_false hnot)

end IsOneLine

end ApiModels.Text
