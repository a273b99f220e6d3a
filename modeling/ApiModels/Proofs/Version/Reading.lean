import ApiModels.Proofs.Except
import ApiModels.Proofs.Number.Digits
import ApiModels.Proofs.Text.Blank
import ApiModels.Version.Basic

/-!
# Versions are read back

A version that was read has numbers of 64 bits and identifiers as the grammar asks for
(`isWellFormed_of_read`). Every such version is read from its text: number by number
(`readNumber_numberText`), identifier by identifier (`readIdentifiers_identifierText`), and so as a
whole (`readChars_chars`), with blanks around it and a `v` in front of it (`IsWellFormed.isReadBack`).
-/

namespace ApiModels.Version

open Number (natDigits)

variable {part : VersionPart}

/-! ### Well-formed versions -/

/-- An identifier that may stand in a part. -/
structure IsIdentifier (part : VersionPart) (identifier : List Char) : Prop where
  chars : ∀ c ∈ identifier, isIdentifierChar c = true
  noFault : identifierFault? part identifier = none

/-- The numbers of a version are numbers of 64 bits. -/
def Fits (v : Version) : Prop := v.major ≤ maxNumber ∧ v.minor ≤ maxNumber ∧ v.patch ≤ maxNumber

/-- A version that can be written and read. -/
structure IsWellFormed (v : Version) : Prop where
  fits : v.Fits
  preRelease : ∀ identifier ∈ v.preRelease, IsIdentifier .preRelease identifier
  build : ∀ identifier ∈ v.build, IsIdentifier .build identifier

/-! ### Numbers -/

theorem readDigits_cons {isFirst : Bool} {n : Nat} {d : Char} (hd : d.isDigit = true)
    (hn : n ≠ 0 ∨ isFirst = true) (hfits : Nat.ofDigitChars 10 [d] n ≤ maxNumber)
    (cs : List Char) : readDigits part isFirst n (d :: cs) =
      readDigits part false (Nat.ofDigitChars 10 [d] n) cs := by
  have hzero : ¬ (n = 0 ∧ (!isFirst) = true) := by
    rintro ⟨rfl, hfirst⟩
    rcases hn with hn | rfl
    · exact hn rfl
    · cases hfirst
  rw [Nat.ofDigitChars_cons, Nat.ofDigitChars_nil, Nat.mul_comm 10 n] at hfits ⊢
  rw [readDigits, if_pos hd, if_neg hzero]
  simp only [if_neg (Nat.not_lt.2 hfits)]

theorem readDigits_append {ds rest : List Char} (hds : ∀ c ∈ ds, c.isDigit = true)
    (hrest : ∀ c ∈ rest.head?, c.isDigit = false) {n : Nat} (hn : n ≠ 0 ∨ ds = [])
    (hfits : Nat.ofDigitChars 10 ds n ≤ maxNumber) :
    readDigits part false n (ds ++ rest) = .ok (Nat.ofDigitChars 10 ds n, rest) := by
  induction ds generalizing n with
  | nil =>
    cases rest with
    | nil => rfl
    | cons c rest => simp [readDigits, hrest c rfl]
  | cons d ds ih =>
    obtain ⟨hd, hds⟩ := List.forall_mem_cons.1 hds
    have hn : n ≠ 0 := hn.resolve_right (List.cons_ne_nil d ds)
    have hgrown : n ≤ Nat.ofDigitChars 10 [d] n := Number.le_ofDigitChars [d] n
    have hstep : Nat.ofDigitChars 10 [d] n ≤ maxNumber :=
      Nat.le_trans (Number.le_ofDigitChars ds _) hfits
    rw [List.cons_append, readDigits_cons hd (.inl hn) hstep]
    exact ih hds (.inl (by omega)) hfits

/-- **A number is read back**, if no digit follows. -/
theorem readNumber_numberText {n : Nat} (hn : n ≤ maxNumber) {rest : List Char}
    (hrest : ∀ c ∈ rest.head?, c.isDigit = false) :
    readNumber part (numberText n ++ rest) = .ok (n, rest) := by
  have hvalue := Number.ofDigitChars_natDigits n
  have hdigits : ∀ c ∈ natDigits n, c.isDigit = true := fun c => Number.isDigit_of_mem_natDigits
  rw [show numberText n = natDigits n from rfl, readNumber]
  cases hcons : natDigits n with
  | nil => exact absurd hcons (Number.natDigits_ne_nil n)
  | cons c ds =>
    rw [hcons] at hvalue hdigits
    obtain ⟨hc, hds⟩ := List.forall_mem_cons.1 hdigits
    have hvalue : Nat.ofDigitChars 10 ds (Nat.ofDigitChars 10 [c] 0) = n := hvalue
    have hfits : Nat.ofDigitChars 10 ds (Nat.ofDigitChars 10 [c] 0) ≤ maxNumber := by
      rwa [hvalue]
    have hfirst := Nat.le_trans (Number.le_ofDigitChars ds _) hfits
    -- A first digit that is zero stands alone.
    have hzero : Nat.ofDigitChars 10 [c] 0 ≠ 0 ∨ ds = [] :=
      (Decidable.em (ds = [])).symm.imp_left (Number.ofDigitChars_singleton_ne_zero hcons)
    rw [List.cons_append, readDigits_cons hc (.inr rfl) hfirst,
      readDigits_append hds hrest hzero hfits, hvalue]

/-! ### Identifiers -/

theorem isIdentifierChar_of_isDigit {c : Char} (h : c.isDigit = true) :
    isIdentifierChar c = true := by
  simp [isIdentifierChar, Char.isAlphanum, h]

theorem readIdentifiers_append {identifier : List Char}
    (h : ∀ c ∈ identifier, isIdentifierChar c = true) (current rest : List Char) :
    readIdentifiers part current (identifier ++ rest) =
      readIdentifiers part (identifier.reverse ++ current) rest := by
  induction identifier generalizing current with
  | nil => rfl
  | cons c identifier ih =>
    obtain ⟨hc, hidentifier⟩ := List.forall_mem_cons.1 h
    rw [List.cons_append, readIdentifiers, if_pos hc, ih hidentifier, List.reverse_cons,
      List.append_assoc, List.singleton_append]

/-- No character follows that could belong to the identifiers of a part. -/
def EndsIdentifiers (rest : List Char) : Prop :=
  ∀ c ∈ rest.head?, isIdentifierChar c = false ∧ c ≠ '.'

theorem readIdentifiers_last {identifier : List Char} (h : IsIdentifier part identifier)
    {rest : List Char} (hrest : EndsIdentifiers rest) :
    readIdentifiers part [] (identifier ++ rest) = .ok ([identifier], rest) := by
  rw [readIdentifiers_append h.chars, List.append_nil]
  cases rest with
  | nil =>
    rw [readIdentifiers, List.reverse_reverse, h.noFault]
  | cons c rest =>
    obtain ⟨hc, hpoint⟩ := hrest c rfl
    rw [readIdentifiers, List.reverse_reverse, h.noFault]
    simp [hc, hpoint]

theorem readIdentifiers_point {identifier : List Char} (h : IsIdentifier part identifier)
    {cs rest : List Char} {identifiers : List (List Char)}
    (hcs : readIdentifiers part [] cs = .ok (identifiers, rest)) :
    readIdentifiers part [] (identifier ++ '.' :: cs) =
      .ok (identifier :: identifiers, rest) := by
  have hpoint : isIdentifierChar '.' = false := by decide
  rw [readIdentifiers_append h.chars, List.append_nil, readIdentifiers, List.reverse_reverse,
    h.noFault]
  simp [hpoint, hcs]

/-- **Identifiers are read back**, if nothing follows that could belong to them. -/
theorem readIdentifiers_identifierText {identifiers : List (List Char)} (hne : identifiers ≠ [])
    (h : ∀ identifier ∈ identifiers, IsIdentifier part identifier) {rest : List Char}
    (hrest : EndsIdentifiers rest) :
    readIdentifiers part [] (identifierText identifiers ++ rest) = .ok (identifiers, rest) := by
  unfold identifierText
  fun_induction Text.join ['.'] identifiers with
  | case1 => exact absurd rfl hne
  | case2 identifier => exact readIdentifiers_last (h identifier List.mem_cons_self) hrest
  | case3 identifier identifiers hmore ih =>
    obtain ⟨hidentifier, hidentifiers⟩ := List.forall_mem_cons.1 h
    rw [List.append_assoc, List.append_assoc, List.singleton_append]
    exact readIdentifiers_point hidentifier (ih hmore hidentifiers)

/-- **A part is read back** with its mark, or its absence. -/
theorem readPart_partText {mark : Char} {identifiers : List (List Char)}
    (h : ∀ identifier ∈ identifiers, IsIdentifier part identifier) {rest : List Char}
    (hrest : EndsIdentifiers rest) (hmark : rest.head? ≠ some mark) :
    readPart part mark (partText mark identifiers ++ rest) = .ok (identifiers, rest) := by
  cases identifiers with
  | nil =>
    cases rest with
    | nil => rfl
    | cons c rest =>
      have hc : c ≠ mark := fun hc => hmark (congrArg some hc)
      simp [partText, readPart, hc]
  | cons identifier identifiers =>
    have hread := readIdentifiers_identifierText (List.cons_ne_nil identifier identifiers) h hrest
    simpa [partText, readPart] using hread

/-! ### Whole versions -/

theorem eq_mark_of_mem_head?_partText {mark c : Char} {identifiers : List (List Char)}
    (h : c ∈ (partText mark identifiers).head?) : c = mark := by
  cases identifiers with
  | nil => cases h
  | cons identifier identifiers => exact (Option.some.inj h).symm

theorem chars_eq (v : Version) : v.chars = numberText v.major ++ '.' :: (numberText v.minor ++
    '.' :: (numberText v.patch ++ (partText '-' v.preRelease ++ partText '+' v.build))) := by
  unfold chars
  simp only [List.append_assoc, List.cons_append]

theorem isDigit_eq_false_of_mem_head?_parts {c : Char} {preRelease build : List (List Char)}
    (h : c ∈ (partText '-' preRelease ++ partText '+' build).head?) : c.isDigit = false := by
  rw [List.head?_append, Option.mem_def, Option.or_eq_some_iff] at h
  rcases h with h | ⟨-, h⟩
  · rw [eq_mark_of_mem_head?_partText h]
    rfl
  · rw [eq_mark_of_mem_head?_partText h]
    rfl

theorem endsIdentifiers_partText (build : List (List Char)) :
    EndsIdentifiers (partText '+' build) := by
  intro c hc
  rw [eq_mark_of_mem_head?_partText hc]
  decide

/-- **A version is read back** from its characters. -/
theorem readChars_chars {v : Version} (h : v.IsWellFormed) : readChars v.chars = .ok v := by
  obtain ⟨major, minor, patch, preRelease, build⟩ := v
  obtain ⟨⟨hmajor, hminor, hpatch⟩, hpreRelease, hbuild⟩ := h
  have hpoint : ∀ rest : List Char, ∀ c ∈ ('.' :: rest).head?, c.isDigit = false := by
    rintro rest c ⟨⟩
    rfl
  have hmark : (partText '+' build).head? ≠ some '-' := fun hhead =>
    absurd (eq_mark_of_mem_head?_partText hhead) (by decide)
  have hbuildRead : readPart .build '+' (partText '+' build) = .ok (build, []) := by
    have hend : EndsIdentifiers [] := fun c hc => nomatch hc
    have hread := @readPart_partText .build '+' build hbuild [] hend (by simp)
    rwa [List.append_nil] at hread
  have hne : ¬ (chars ⟨major, minor, patch, preRelease, build⟩).isEmpty = true := by
    rw [chars_eq]
    simp
  unfold readChars
  rw [if_neg hne, chars_eq]
  simp only [bind, pure, Except.bind, Except.pure, readNumber_numberText hmajor (hpoint _),
    afterPoint, readNumber_numberText hminor (hpoint _),
    readNumber_numberText hpatch (fun _ => isDigit_eq_false_of_mem_head?_parts),
    readPart_partText hpreRelease (endsIdentifiers_partText build) hmark, hbuildRead]

/-! ### Blanks and the mark around a version -/

/-- A character that may stand in the text of a version. -/
def IsVersionChar (c : Char) : Prop := isIdentifierChar c = true ∨ c ∈ ['.', '-', '+']

theorem isVersionChar_of_mem_chars {v : Version} (h : v.IsWellFormed) {c : Char}
    (hc : c ∈ v.chars) : IsVersionChar c := by
  have hnumber : ∀ n, c ∈ numberText n → IsVersionChar c := fun n hn =>
    .inl (isIdentifierChar_of_isDigit (Number.isDigit_of_mem_natDigits hn))
  have hpart : ∀ {part : VersionPart} {mark : Char} (identifiers : List (List Char)),
      (∀ identifier ∈ identifiers, IsIdentifier part identifier) → mark ∈ ['.', '-', '+'] →
        c ∈ partText mark identifiers → IsVersionChar c := by
    intro part mark identifiers hidentifiers hmark hmem
    unfold partText at hmem
    split at hmem
    · cases hmem
    · rcases List.mem_cons.1 hmem with rfl | hmem
      · exact .inr hmark
      · rcases Text.mem_join hmem with hpoint | ⟨identifier, hidentifier, hmem⟩
        · rw [List.mem_singleton.1 hpoint]
          exact .inr (by decide)
        · exact .inl ((hidentifiers identifier hidentifier).chars c hmem)
  rw [chars_eq] at hc
  simp only [List.mem_append, List.mem_cons] at hc
  rcases hc with hc | rfl | hc | rfl | hc | hc | hc
  · exact hnumber _ hc
  · exact .inr (by decide)
  · exact hnumber _ hc
  · exact .inr (by decide)
  · exact hnumber _ hc
  · exact hpart _ h.preRelease (by decide) hc
  · exact hpart _ h.build (by decide) hc

theorem IsVersionChar.not_blank {c : Char} (h : IsVersionChar c) : Text.isBlank c = false := by
  rcases h with h | h
  · rcases Bool.or_eq_true_iff.1 h with h | h
    · exact Text.isBlank_eq_false_of_isAlphanum h
    · rw [beq_iff_eq.1 h]
      rfl
  · simp only [List.mem_cons, List.not_mem_nil, or_false] at h
    rcases h with rfl | rfl | rfl <;> rfl

theorem exists_chars_eq_cons (v : Version) : ∃ c cs, v.chars = c :: cs ∧ c.isDigit = true := by
  rw [chars_eq, show numberText v.major = natDigits v.major from rfl]
  cases hdigits : natDigits v.major with
  | nil => exact absurd hdigits (Number.natDigits_ne_nil _)
  | cons c cs =>
    exact ⟨c, _, rfl, Number.isDigit_of_mem_natDigits (hdigits ▸ List.mem_cons_self)⟩

/-- A version is read from its text and from its tag, whatever blanks stand around them. -/
def IsReadBack (v : Version) : Prop :=
  ∀ before after : String, Text.allBlank before.toList → Text.allBlank after.toList →
    read (before ++ v.text ++ after) = .ok v ∧ read (before ++ v.tag ++ after) = .ok v

/-- **A well-formed version is read back.** -/
theorem IsWellFormed.isReadBack {v : Version} (h : v.IsWellFormed) : v.IsReadBack := by
  intro before after hbefore hafter
  obtain ⟨c, cs, hchars, hc⟩ := v.exists_chars_eq_cons
  have hblank : ∀ d ∈ v.chars, Text.isBlank d = false := fun d hd =>
    (isVersionChar_of_mem_chars h hd).not_blank
  have hmark : ∀ d ∈ 'v' :: v.chars, Text.isBlank d = false :=
    List.forall_mem_cons.2 ⟨rfl, hblank⟩
  have htext : core (before ++ v.text ++ after) = v.chars := by
    have htrim := Text.trim_between (List.all_eq_true.1 hbefore) (List.all_eq_true.1 hafter)
      (hchars ▸ List.cons_ne_nil c cs) hblank
    rw [core, String.toList_append, String.toList_append, text, String.toList_ofList, htrim, hchars]
    split
    · next heq =>
      -- A digit is no mark.
      cases (List.cons.inj heq).1
      cases hc
    · rfl
  have htag : core (before ++ v.tag ++ after) = v.chars := by
    have htrim := Text.trim_between (List.all_eq_true.1 hbefore) (List.all_eq_true.1 hafter)
      (List.cons_ne_nil 'v' v.chars) hmark
    rw [core, String.toList_append, String.toList_append, tag, String.toList_ofList, htrim]
    rfl
  constructor
  · rw [read, htext, readChars_chars h]
  · rw [read, htag, readChars_chars h]

/-! ### What is read is well formed -/

theorem le_maxNumber_of_readDigits {isFirst : Bool} {n m : Nat} {cs rest : List Char}
    (hn : n ≤ maxNumber) (h : readDigits part isFirst n cs = .ok (m, rest)) : m ≤ maxNumber := by
  fun_induction readDigits part isFirst n cs with
  | case1 | case2 | case4 | case6 => cases h
  | case3 _ _ _ _ _ _ _ hfits ih => exact ih (Nat.not_lt.1 hfits) h
  | case5 | case7 =>
    cases h
    exact hn

theorem le_maxNumber_of_readNumber {m : Nat} {cs rest : List Char}
    (h : readNumber part cs = .ok (m, rest)) : m ≤ maxNumber :=
  le_maxNumber_of_readDigits (Nat.zero_le _) h

/-- Identifiers that were read are identifiers; `current` are characters of the first one. -/
theorem isIdentifier_of_mem_readIdentifiers {current cs rest : List Char}
    {identifiers : List (List Char)} (hcurrent : ∀ c ∈ current, isIdentifierChar c = true)
    (h : readIdentifiers part current cs = .ok (identifiers, rest)) :
    ∀ identifier ∈ identifiers, IsIdentifier part identifier := by
  have hdone : ∀ {current : List Char}, (∀ c ∈ current, isIdentifierChar c = true) →
      identifierFault? part current.reverse = none → IsIdentifier part current.reverse :=
    fun hchars hfault => ⟨fun c hc => hchars c (List.mem_reverse.1 hc), hfault⟩
  fun_induction readIdentifiers part current cs generalizing identifiers with
  | case1 | case4 | case5 => cases h
  | case2 current hfault | case7 current _ _ _ hfault =>
    cases h
    exact List.forall_mem_singleton.2 (hdone hcurrent hfault)
  | case3 current c cs hc ih => exact ih (List.forall_mem_cons.2 ⟨hc, hcurrent⟩) h
  | case6 current cs hfault identifiers' rest' hread _ ih =>
    cases h
    exact List.forall_mem_cons.2 ⟨hdone hcurrent hfault, ih (List.forall_mem_nil _) hread⟩

theorem isIdentifier_of_mem_readPart {mark : Char} {cs rest : List Char}
    {identifiers : List (List Char)} (h : readPart part mark cs = .ok (identifiers, rest)) :
    ∀ identifier ∈ identifiers, IsIdentifier part identifier := by
  unfold readPart at h
  split at h
  · cases h
    exact List.forall_mem_nil _
  · split at h
    · exact isIdentifier_of_mem_readIdentifiers (List.forall_mem_nil _) h
    · cases h
      exact List.forall_mem_nil _

/-- **What is read is well formed.** -/
theorem isWellFormed_of_read {s : String} {v : Version} (h : read s = .ok v) :
    v.IsWellFormed := by
  unfold read readChars at h
  split at h
  · cases h
  · simp only [bind_eq_ok_iff] at h
    obtain ⟨⟨major, _⟩, hmajor, _, -, ⟨minor, _⟩, hminor, _, -, ⟨patch, _⟩, hpatch,
      ⟨preRelease, _⟩, hpreRelease, ⟨build, rest⟩, hbuild, h⟩ := h
    split at h
    · cases h
      exact ⟨⟨le_maxNumber_of_readNumber hmajor, le_maxNumber_of_readNumber hminor,
        le_maxNumber_of_readNumber hpatch⟩, isIdentifier_of_mem_readPart hpreRelease,
        isIdentifier_of_mem_readPart hbuild⟩
    · cases h

end ApiModels.Version
