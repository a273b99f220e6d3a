import ApiModels.Json.Printer
import ApiModels.Json.Reader
import ApiModels.Proofs.Number.Digits

/-!
# Strings and natural numbers in JSON text

The reader gives back every string that was written (`readString_escaped`), and every natural number
of 64 bits, if no character follows that could belong to it (`readNumber_natDigits`).
-/

namespace ApiModels.Json

/-! ### Strings -/

theorem stringBody_escape {e : Char} {used : Nat} {cs body rest : List Char}
    (hescape : escapeSequence cs = .ok (e, used)) (h : stringBody used cs = .ok (body, rest)) :
    stringBody 0 ('\\' :: cs) = .ok (e :: body, rest) := by
  have hquote : ¬ '\\' = '"' := by decide
  rw [stringBody, if_neg hquote, if_pos rfl, hescape]
  simp only [h]

theorem stringBody_letter {d e : Char} {cs body rest : List Char}
    (hescape : escapeSequence (d :: cs) = .ok (e, 1)) (h : stringBody 0 cs = .ok (body, rest)) :
    stringBody 0 ('\\' :: d :: cs) = .ok (e :: body, rest) :=
  stringBody_escape hescape h

theorem hexValue?_hexDigit (n : Nat) : hexValue? (hexDigit n) = some (n % 16) := by
  have hall : ∀ k, k < 16 → hexValue? (Nat.digitChar k) = some k := by decide
  exact hall (n % 16) (Nat.mod_lt n (by decide))

/-- A control character is read from its code. -/
theorem unicodeEscape_hexDigits {c : Char} (hc : c.toNat < 0x20) (cs : List Char) :
    unicodeEscape ('0' :: '0' :: hexDigit (c.toNat / 16) :: hexDigit c.toNat :: cs) =
      .ok (c, 4) := by
  have hzero : hexValue? '0' = some 0 := by decide
  have hcode : ((0 * 16 + 0) * 16 + c.toNat / 16 % 16) * 16 + c.toNat % 16 = c.toNat := by omega
  have hfour : hexFour ('0' :: '0' :: hexDigit (c.toNat / 16) :: hexDigit c.toNat :: cs) =
      .ok c.toNat := by
    simp only [hexFour, hexFour?, hzero, hexValue?_hexDigit, bind, pure, Option.bind, hcode]
  have hnotLow : ¬ (0xDC00 ≤ c.toNat ∧ c.toNat ≤ 0xDFFF) := by omega
  have hnotHigh : c.toNat < 0xD800 ∨ 0xDBFF < c.toNat := .inl (by omega)
  unfold unicodeEscape
  simp only [hfour, bind, pure, Except.bind, Except.pure, if_neg hnotLow, if_pos hnotHigh,
    Char.ofNat_toNat]

theorem stringBody_escapedChar (c : Char) {cs body rest : List Char}
    (h : stringBody 0 cs = .ok (body, rest)) :
    stringBody 0 (escapedChar c ++ cs) = .ok (c :: body, rest) := by
  -- Seven characters have an escape of their own, control characters have their code, and all
  -- others stand for themselves.
  unfold escapedChar
  split
  · next hc => subst hc; exact stringBody_letter rfl h
  split
  · next hc => subst hc; exact stringBody_letter rfl h
  split
  · next hc => subst hc; exact stringBody_letter rfl h
  split
  · next hc => subst hc; exact stringBody_letter rfl h
  split
  · next hc => subst hc; exact stringBody_letter rfl h
  split
  · next hc => subst hc; exact stringBody_letter rfl h
  split
  · next hc => subst hc; exact stringBody_letter rfl h
  split
  · next hcontrol =>
    have hescape : escapeSequence ('u' :: '0' :: '0' :: hexDigit (c.toNat / 16) ::
        hexDigit c.toNat :: cs) = .ok (c, 5) := by
      rw [escapeSequence, unicodeEscape_hexDigits hcontrol]
    exact stringBody_escape hescape h
  · next hquote hbackslash _ _ _ _ _ hcontrol =>
    rw [List.singleton_append, stringBody, if_neg hquote, if_neg hbackslash, if_neg hcontrol]
    simp only [h]

theorem stringBody_escaped (s rest : List Char) :
    stringBody 0 (escaped s ++ '"' :: rest) = .ok (s, rest) := by
  induction s with
  | nil => rfl
  | cons c s ih =>
    rw [escaped, List.flatMap_cons, List.append_assoc]
    exact stringBody_escapedChar c ih

/-- **A string is read back.** -/
theorem readString_escaped (s : String) (rest : List Char) :
    readString (escaped s.toList ++ '"' :: rest) = .ok (s, rest) := by
  rw [readString, stringBody_escaped]
  exact congrArg (fun s => Except.ok (s, rest)) String.ofList_toList

/-! ### Natural numbers -/

/-- No character follows that could belong to a number. -/
def EndsNumber (rest : List Char) : Prop :=
  ∀ c ∈ rest.head?, isDigit c = false ∧ c ≠ '.' ∧ c ≠ 'e' ∧ c ≠ 'E'

theorem endsNumber_nil : EndsNumber [] := fun _ h => nomatch h

theorem endsNumber_cons {c : Char} (hdigit : isDigit c = false)
    (hother : c ∉ ['.', 'e', 'E']) (rest : List Char) : EndsNumber (c :: rest) := by
  rintro _ ⟨⟩
  simp only [List.mem_cons, List.not_mem_nil, or_false, not_or] at hother
  exact ⟨hdigit, hother⟩

theorem isDigit_eq (c : Char) : isDigit c = c.isDigit := by
  rw [Bool.eq_iff_iff, Char.isDigit_iff_toNat]
  unfold isDigit
  simp only [Bool.and_eq_true, decide_eq_true_eq, Char.le_def, UInt32.le_iff_toNat_le]
  rfl

theorem isDigit_of_mem_natDigits {n : Nat} {c : Char} (h : c ∈ Number.natDigits n) :
    isDigit c = true := (isDigit_eq c).trans (Number.isDigit_of_mem_natDigits h)

/-- No digits are left over of a number that stays within 64 bits. -/
theorem absorbDigits_eq {n : Nat} {ds : List Char} (h : Nat.ofDigitChars 10 ds n ≤ maxWord) :
    absorbDigits n ds = (Nat.ofDigitChars 10 ds n, []) := by
  induction ds generalizing n with
  | nil => rfl
  | cons d ds ih =>
    have hstep : Nat.ofDigitChars 10 (d :: ds) n =
        Nat.ofDigitChars 10 ds (n * 10 + digitValue d) := by
      rw [Nat.ofDigitChars_cons, Nat.mul_comm 10 n]
      rfl
    rw [hstep] at h ⊢
    -- The value grows with every digit, so it has been within 64 bits all along.
    have hfits := Nat.le_trans (Number.le_ofDigitChars ds _) h
    rw [absorbDigits, if_neg (Nat.not_lt.2 hfits), ih h]

theorem afterInteger_natDigits {n : Nat} (hn : n ≤ maxWord) {rest : List Char}
    (hrest : EndsNumber rest) :
    afterInteger false (Number.natDigits n) rest = .ok (.int n, rest) := by
  have hvalue := Number.ofDigitChars_natDigits n
  have habsorb : absorbDigits 0 (Number.natDigits n) = (n, []) := by
    rw [absorbDigits_eq (by rwa [hvalue]), hvalue]
  unfold afterInteger
  simp only [habsorb]
  cases rest with
  | nil => rfl
  | cons c rest =>
    obtain ⟨-, hpoint, hsmall, hcapital⟩ := hrest c rfl
    split
    · next heq => exact absurd (List.cons.inj heq).1 hpoint
    · next heq => exact absurd (List.cons.inj heq).1 hsmall
    · next heq => exact absurd (List.cons.inj heq).1 hcapital
    · rfl

/-- **A natural number is read back** from its digits. -/
theorem readNumber_natDigits {n : Nat} (hn : n ≤ maxWord) {rest : List Char}
    (hrest : EndsNumber rest) :
    readNumber false (Number.natDigits n ++ rest) = .ok (.int n, rest) := by
  have hafter := afterInteger_natDigits hn hrest
  have hdigits : ∀ c ∈ Number.natDigits n, isDigit c = true := fun c => isDigit_of_mem_natDigits
  -- The digits that are taken are those of the number, since no digit follows.
  have hhead : rest.takeWhile isDigit = [] ∧ rest.dropWhile isDigit = rest := by
    cases rest with
    | nil => exact ⟨rfl, rfl⟩
    | cons c rest =>
      have hc : ¬ isDigit c = true := by simp [(hrest c rfl).1]
      exact ⟨List.takeWhile_cons_of_neg hc, List.dropWhile_cons_of_neg hc⟩
  have htake : (Number.natDigits n ++ rest).takeWhile isDigit = Number.natDigits n := by
    rw [List.takeWhile_append_of_pos hdigits, hhead.1, List.append_nil]
  have hdrop : (Number.natDigits n ++ rest).dropWhile isDigit = rest := by
    rw [List.dropWhile_append_of_pos hdigits, hhead.2]
  cases hcons : Number.natDigits n with
  | nil => exact absurd hcons (Number.natDigits_ne_nil n)
  | cons c ds =>
    rw [hcons] at hafter hdigits htake hdrop
    rw [List.cons_append, readNumber]
    split
    · next hzero =>
      -- A zero stands alone.
      subst hzero
      obtain ⟨-, rfl⟩ := Number.eq_zero_of_natDigits_eq_cons hcons
      have hnext : ¬ (rest.take 1).any isDigit = true := by
        cases rest with
        | nil => exact Bool.false_ne_true
        | cons c rest => simp [(hrest c rfl).1]
      rw [List.nil_append, if_neg hnext, hafter]
    · rw [if_pos (hdigits c List.mem_cons_self), ← List.cons_append, htake, hdrop, hafter]

end ApiModels.Json
