import ApiModels.Proofs.Text.Blank
import ApiModels.Swift.LineForm

/-!
# Identifiers

An identifier starts with a letter or an underscore of ASCII and goes on with letters, digits and
underscores. The recogniser of identifiers reads one that is written in front of anything else
(`identifier?_append`), and also one that was put between backticks
(`IsSpelling.identifier?_skipBacktick`).
-/

namespace ApiModels.Swift

open Text (isBlank)

/-- A letter or underscore of ASCII, and then letters, digits and underscores. -/
def IsIdentifier (name : String) : Prop :=
  ∃ c rest, name.toList = c :: rest ∧ isIdentifierStart c = true ∧
    ∀ d ∈ rest, Naming.isIdentifierChar d = true

theorem isIdentifier_iff {name : String} :
    IsIdentifier name ↔ name.toList.head?.any isIdentifierStart = true ∧
      name.toList.tail.all Naming.isIdentifierChar = true := by
  constructor
  · rintro ⟨c, rest, heq, hstart, hrest⟩
    rw [heq]
    exact ⟨hstart, List.all_eq_true.2 hrest⟩
  · rintro ⟨hstart, hrest⟩
    unfold IsIdentifier
    cases heq : name.toList with
    | nil => simp [heq] at hstart
    | cons c rest => exact ⟨c, rest, rfl, by simpa [heq] using hstart, by simpa [heq] using hrest⟩

instance (name : String) : Decidable (IsIdentifier name) :=
  decidable_of_iff _ isIdentifier_iff.symm

/-! ### Characters -/

theorem isIdentifierChar_of_isIdentifierStart {c : Char} (h : isIdentifierStart c = true) :
    Naming.isIdentifierChar c = true := by
  simp only [isIdentifierStart, Naming.isIdentifierChar, Char.isAlphanum, Bool.or_eq_true] at h ⊢
  exact h.imp_left .inl

theorem ne_of_isIdentifierChar {c d : Char} (h : Naming.isIdentifierChar c = true)
    (hd : Naming.isIdentifierChar d = false) : c ≠ d := by
  rintro rfl
  exact Bool.false_ne_true (hd.symm.trans h)

theorem not_mem_words {text : List Char}
    (htext : text.all (fun d => Naming.isIdentifierChar d || d == ' ') = true) {c : Char}
    (hc : Naming.isIdentifierChar c = false) (hspace : c ≠ ' ') : c ∉ text := by
  intro hmem
  rcases Bool.or_eq_true_iff.1 (List.all_eq_true.1 htext c hmem) with hword | heq
  · exact ne_of_isIdentifierChar hword hc rfl
  · exact hspace (beq_iff_eq.1 heq)

theorem isBlank_eq_false_of_isIdentifierChar {c : Char} (h : Naming.isIdentifierChar c = true) :
    isBlank c = false := by
  rcases Bool.or_eq_true_iff.1 h with h | h
  · exact Text.isBlank_eq_false_of_isAlphanum h
  · rw [beq_iff_eq.1 h]
    rfl

namespace IsIdentifier

variable {name : String}

theorem isIdentifierChar (h : IsIdentifier name) {c : Char} (hc : c ∈ name.toList) :
    Naming.isIdentifierChar c = true := by
  obtain ⟨d, rest, heq, hstart, hrest⟩ := h
  rw [heq] at hc
  rcases List.mem_cons.1 hc with rfl | hc
  · exact isIdentifierChar_of_isIdentifierStart hstart
  · exact hrest c hc

theorem not_mem (h : IsIdentifier name) {c : Char} (hc : Naming.isIdentifierChar c = false) :
    c ∉ name.toList :=
  fun hmem => ne_of_isIdentifierChar (h.isIdentifierChar hmem) hc rfl

theorem not_blank (h : IsIdentifier name) {c : Char} (hc : c ∈ name.toList) :
    isBlank c = false :=
  isBlank_eq_false_of_isIdentifierChar (h.isIdentifierChar hc)

end IsIdentifier

/-! ### Reading an identifier -/

variable {name : String}

theorem identifier?_append (h : IsIdentifier name) {rest : List Char}
    (hrest : ∀ c ∈ rest.head?, Naming.isIdentifierChar c = false) :
    identifier? (name.toList ++ rest) = some (name.toList, rest) := by
  obtain ⟨c, tail, heq, hstart, htail⟩ := h
  have htake : rest.takeWhile Naming.isIdentifierChar = [] := by
    cases rest with
    | nil => rfl
    | cons d rest => simp [hrest d rfl]
  have hdrop : rest.dropWhile Naming.isIdentifierChar = rest := by
    cases rest with
    | nil => rfl
    | cons d rest => simp [hrest d rfl]
  rw [heq, List.cons_append, identifier?, if_pos hstart, List.takeWhile_append_of_pos htail,
    List.dropWhile_append_of_pos htail, htake, hdrop, List.append_nil]

theorem skipBacktick_of_head {cs : List Char} (h : cs.head? ≠ some '\x60') :
    skipBacktick cs = cs := by
  unfold skipBacktick
  split
  · exact absurd rfl h
  · rfl

/-! ### Identifiers as they are written -/

/-- A name as it may be written, with or without backticks around it. -/
def IsSpelling (name : String) (written : List Char) : Prop :=
  written = name.toList ∨ written = '\x60' :: (name.toList ++ ['\x60'])

theorem isSpelling_identifier (p : RenderProfile) (name : String) :
    IsSpelling name (p.identifier name).toList := by
  unfold RenderProfile.identifier
  split
  · exact .inr (by simp)
  · exact .inl rfl

namespace IsSpelling

variable {written : List Char}

theorem trimStart_append (hwritten : IsSpelling name written) (h : IsIdentifier name)
    (rest : List Char) : Text.trimStart (written ++ rest) = written ++ rest := by
  refine Text.trimStart_eq_self fun c hc => ?_
  rcases hwritten with rfl | rfl
  · obtain ⟨d, tail, heq, -⟩ := id h
    rw [heq] at hc
    cases hc
    exact h.not_blank (heq ▸ List.mem_cons_self)
  · cases hc
    rfl

theorem identifier?_skipBacktick (hwritten : IsSpelling name written) (h : IsIdentifier name)
    {rest : List Char} (hrest : ∀ c ∈ rest.head?, Naming.isIdentifierChar c = false)
    (hbacktick : rest.head? ≠ some '\x60') :
    ∃ tail, identifier? (skipBacktick (written ++ rest)) = some (name.toList, tail) ∧
      skipBacktick tail = rest := by
  rcases hwritten with rfl | rfl
  · refine ⟨rest, ?_, skipBacktick_of_head hbacktick⟩
    rw [skipBacktick_of_head, identifier?_append h hrest]
    obtain ⟨c, tail, heq, hstart, -⟩ := h
    rw [heq, List.cons_append, List.head?_cons, ne_eq, Option.some.injEq]
    exact ne_of_isIdentifierChar (isIdentifierChar_of_isIdentifierStart hstart) rfl
  · refine ⟨'\x60' :: rest, ?_, rfl⟩
    have hquoted : skipBacktick ('\x60' :: (name.toList ++ ['\x60']) ++ rest) =
        name.toList ++ '\x60' :: rest := by
      simp [skipBacktick]
    rw [hquoted]
    exact identifier?_append h fun c hc => by cases hc; rfl

end IsSpelling

end ApiModels.Swift
