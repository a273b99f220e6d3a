import ApiModels.Number.Shortest

/-!
# Digits of natural numbers

The digits of a natural number give it back (`ofDigitChars_natDigits`), and they start with a zero
only if it is zero (`eq_zero_of_natDigits_eq_cons`), so the first digit counts unless it stands alone
(`ofDigitChars_singleton_ne_zero`). While digits are taken up one by one, the value does not become
smaller (`le_ofDigitChars`).
-/

namespace ApiModels.Number

theorem natDigits_ne_nil (n : Nat) : natDigits n ≠ [] := Nat.toDigits_ne_nil

theorem ofDigitChars_natDigits (n : Nat) : Nat.ofDigitChars 10 (natDigits n) 0 = n :=
  Nat.ofDigitChars_toDigits (by decide) (by decide)

theorem isDigit_of_mem_natDigits {n : Nat} {c : Char} (h : c ∈ natDigits n) : c.isDigit = true :=
  Nat.isDigit_of_mem_toDigits (by decide) (by decide) h

theorem le_ofDigitChars (ds : List Char) (n : Nat) : n ≤ Nat.ofDigitChars 10 ds n := by
  induction ds generalizing n with
  | nil => exact Nat.le_refl n
  | cons d ds ih =>
    rw [Nat.ofDigitChars_cons]
    exact Nat.le_trans (by omega) (ih _)

theorem eq_zero_of_natDigits_eq_cons {n : Nat} {ds : List Char} (h : natDigits n = '0' :: ds) :
    n = 0 ∧ ds = [] := by
  unfold natDigits at h
  induction n using Nat.strongRecOn generalizing ds with
  | ind n ih =>
    by_cases hsmall : n < 10
    · rw [Nat.toDigits_of_lt_base hsmall] at h
      obtain ⟨hdigit, rfl⟩ := List.cons.inj h
      have hzero : ∀ n, n < 10 → Nat.digitChar n = '0' → n = 0 := by decide
      exact ⟨hzero n hsmall hdigit, rfl⟩
    · -- The first digit is that of a tenth, which is not zero.
      have hlarge : 10 ≤ n := Nat.not_lt.1 hsmall
      rw [Nat.toDigits_of_base_le (by decide) hlarge] at h
      cases htenth : Nat.toDigits 10 (n / 10) with
      | nil => exact absurd htenth Nat.toDigits_ne_nil
      | cons c cs =>
        rw [htenth, List.cons_append] at h
        obtain ⟨rfl, -⟩ := List.cons.inj h
        have hzero := (ih (n / 10) (by omega) htenth).1
        omega

/-- The first digit of a number counts, if it does not stand alone. -/
theorem ofDigitChars_singleton_ne_zero {n : Nat} {c : Char} {ds : List Char}
    (h : natDigits n = c :: ds) (hds : ds ≠ []) : Nat.ofDigitChars 10 [c] 0 ≠ 0 := by
  rw [Nat.ofDigitChars_cons, Nat.ofDigitChars_nil]
  intro hsum
  have hdigit : c.isDigit = true := isDigit_of_mem_natDigits (h ▸ List.mem_cons_self)
  have hrange := Char.isDigit_iff_toNat.1 hdigit
  have hzero : c = '0' := Char.toNat_inj.1 (by omega)
  exact hds (eq_zero_of_natDigits_eq_cons (hzero ▸ h)).2

end ApiModels.Number
