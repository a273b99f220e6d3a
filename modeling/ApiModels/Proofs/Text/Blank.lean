import ApiModels.Text.Blank

/-!
# Trimming and splitting

When trimming leaves a text as it is, and what it leaves otherwise; what the pieces between
separators are, and what becomes of pieces that are joined. A text that is put together from pieces
without separators is cut into the same pieces again (`fields_flatMap_append_singleton`).

Replacing in a text goes on behind an occurrence (`replaceAll_append`) and passes a character at
which none starts (`replaceAll_cons_of_not_isPrefix`).
-/

namespace ApiModels.Text

theorem isBlank_eq_false_of_isAlphanum {c : Char} (h : c.isAlphanum = true) :
    isBlank c = false := by
  have hrange : 48 ≤ c.toNat ∧ c.toNat ≤ 122 := by
    rcases Bool.or_eq_true_iff.1 h with halpha | hdigit
    · rcases Bool.or_eq_true_iff.1 halpha with hupper | hlower
      · have hcodes : 65 ≤ c.toNat ∧ c.toNat ≤ 90 := of_decide_eq_true hupper
        omega
      · have hcodes : 97 ≤ c.toNat ∧ c.toNat ≤ 122 :=
          (Bool.and_eq_true_iff.1 hlower).imp of_decide_eq_true of_decide_eq_true
        omega
    · have hcodes : 48 ≤ c.toNat ∧ c.toNat ≤ 57 := Char.isDigit_iff_toNat.1 hdigit
      omega
  simp only [isBlank, Bool.or_eq_false_iff, Bool.and_eq_false_iff, decide_eq_false_iff_not,
    beq_eq_false_iff_ne]
  omega

/-! ### Trimming -/

theorem trimStart_cons_of_not_blank {c : Char} (h : isBlank c = false) (cs : List Char) :
    trimStart (c :: cs) = c :: cs := by
  simp [trimStart, h]

theorem trimStart_append_of_blank {blanks : List Char} (h : ∀ c ∈ blanks, isBlank c = true)
    (cs : List Char) : trimStart (blanks ++ cs) = trimStart cs := by
  rw [trimStart, List.dropWhile_append_of_pos h, trimStart]

theorem trimStart_eq_self {cs : List Char} (h : ∀ c ∈ cs.head?, isBlank c = false) :
    trimStart cs = cs := by
  cases cs with
  | nil => rfl
  | cons c cs => exact trimStart_cons_of_not_blank (h c rfl) cs

theorem trimEnd_eq_self {cs : List Char} (h : ∀ c ∈ cs.getLast?, isBlank c = false) :
    trimEnd cs = cs := by
  have hreverse : trimStart cs.reverse = cs.reverse :=
    trimStart_eq_self (by simpa [List.head?_reverse] using h)
  rw [trimEnd, ← trimStart, hreverse, List.reverse_reverse]

theorem trim_eq_self {cs : List Char} (hhead : ∀ c ∈ cs.head?, isBlank c = false)
    (hlast : ∀ c ∈ cs.getLast?, isBlank c = false) : trim cs = cs := by
  rw [trim, trimStart_eq_self hhead, trimEnd_eq_self hlast]

theorem trim_between {before after cs : List Char} (hbefore : ∀ c ∈ before, isBlank c = true)
    (hafter : ∀ c ∈ after, isBlank c = true) (hne : cs ≠ [])
    (hcs : ∀ c ∈ cs, isBlank c = false) : trim (before ++ cs ++ after) = cs := by
  have hhead : ∀ c ∈ (cs ++ after).head?, isBlank c = false := by
    obtain ⟨d, ds, rfl⟩ := List.exists_cons_of_ne_nil hne
    rintro c ⟨⟩
    exact hcs d List.mem_cons_self
  have hlast : ∀ c ∈ cs.reverse.head?, isBlank c = false := fun c hc =>
    hcs c (List.mem_reverse.1 (List.mem_of_head? hc))
  have hafterReverse : ∀ c ∈ after.reverse, isBlank c = true := fun c hc =>
    hafter c (List.mem_reverse.1 hc)
  rw [trim, List.append_assoc, trimStart_append_of_blank hbefore, trimStart_eq_self hhead, trimEnd,
    ← trimStart, List.reverse_append, trimStart_append_of_blank hafterReverse,
    trimStart_eq_self hlast, List.reverse_reverse]

theorem not_blank_of_mem_head?_trimStart {cs : List Char} {c : Char}
    (h : c ∈ (trimStart cs).head?) : isBlank c = false := by
  have hhead := List.head?_dropWhile_not isBlank cs
  rw [← trimStart, Option.mem_def.1 h] at hhead
  simpa using hhead

theorem not_blank_of_mem_getLast?_trimEnd {cs : List Char} {c : Char}
    (h : c ∈ (trimEnd cs).getLast?) : isBlank c = false := by
  rw [trimEnd, List.getLast?_reverse] at h
  exact not_blank_of_mem_head?_trimStart h

theorem trimStart_suffix (cs : List Char) : trimStart cs <:+ cs := List.dropWhile_suffix _

theorem trimEnd_isPrefix (cs : List Char) : trimEnd cs <+: cs := by
  have hsuffix : cs.reverse.dropWhile isBlank <:+ cs.reverse := List.dropWhile_suffix _
  rw [← List.reverse_suffix, trimEnd, List.reverse_reverse]
  exact hsuffix

theorem not_blank_of_mem_head?_trim {cs : List Char} {c : Char} (h : c ∈ (trim cs).head?) :
    isBlank c = false := by
  obtain ⟨rest, hrest⟩ := trimEnd_isPrefix (trimStart cs)
  have hhead : (trimStart cs).head? = some c := by
    rw [← hrest, List.head?_append, ← trim, Option.mem_def.1 h, Option.some_or]
  exact not_blank_of_mem_head?_trimStart hhead

theorem mem_of_mem_trim {cs : List Char} {c : Char} (h : c ∈ trim cs) : c ∈ cs :=
  (trimStart_suffix cs).subset ((trimEnd_isPrefix _).subset h)

/-! ### Splitting -/

theorem not_isSeparator_of_mem_fields {isSeparator : Char → Bool} {cs piece : List Char}
    (hpiece : piece ∈ fields isSeparator cs) {c : Char} (hc : c ∈ piece) :
    isSeparator c = false := by
  induction cs generalizing piece with
  | nil =>
    cases List.mem_singleton.1 hpiece
    cases hc
  | cons d cs ih =>
    rw [fields] at hpiece
    by_cases hd : isSeparator d = true
    · rw [if_pos hd] at hpiece
      rcases List.mem_cons.1 hpiece with rfl | hpiece
      · cases hc
      · exact ih hpiece hc
    · rw [if_neg hd] at hpiece
      cases hfields : fields isSeparator cs with
      | nil => exact absurd hfields (fields_ne_nil isSeparator cs)
      | cons first rest =>
        rw [hfields] at hpiece ih
        rcases List.mem_cons.1 hpiece with rfl | hpiece
        · rcases List.mem_cons.1 hc with rfl | hc
          · simpa using hd
          · exact ih List.mem_cons_self hc
        · exact ih (List.mem_cons_of_mem first hpiece) hc

theorem fields_eq_singleton {isSeparator : Char → Bool} {cs : List Char}
    (h : ∀ c ∈ cs, isSeparator c = false) : fields isSeparator cs = [cs] := by
  induction cs with
  | nil => rfl
  | cons c cs ih =>
    rw [fields, ih fun d hd => h d (List.mem_cons_of_mem c hd), if_neg]
    simp [h c List.mem_cons_self]

/-- What stands behind a text without a separator belongs to the last field. -/
theorem exists_fields_append (isSeparator : Char → Bool) (cs ending : List Char)
    (h : ∀ c ∈ ending, isSeparator c = false) : ∃ before last,
      fields isSeparator cs = before ++ [last] ∧
        fields isSeparator (cs ++ ending) = before ++ [last ++ ending] := by
  induction cs with
  | nil => exact ⟨[], [], rfl, fields_eq_singleton h⟩
  | cons c cs ih =>
    obtain ⟨before, last, hcs, hending⟩ := ih
    rw [List.cons_append, fields, fields, hcs, hending]
    by_cases hc : isSeparator c = true
    · exact ⟨[] :: before, last, if_pos hc, if_pos hc⟩
    · rw [if_neg hc, if_neg hc]
      cases before with
      | nil => exact ⟨[], c :: last, rfl, rfl⟩
      | cons first before => exact ⟨(c :: first) :: before, last, rfl, rfl⟩

theorem words_eq_nil_iff {cs : List Char} : words cs = [] ↔ ∀ c ∈ cs, isBlank c = true := by
  induction cs with
  | nil => exact ⟨fun _ => List.forall_mem_nil _, fun _ => rfl⟩
  | cons c cs ih =>
    rw [List.forall_mem_cons, ← ih]
    by_cases hc : isBlank c = true
    · have hcons : words (c :: cs) = words cs := by
        rw [words, segments, fields, if_pos hc]
        rfl
      rw [hcons, and_iff_right hc]
    · -- A character that is no blank belongs to the first piece.
      obtain ⟨piece, pieces, hpieces⟩ := List.exists_cons_of_ne_nil (fields_ne_nil isBlank cs)
      have hcons : words (c :: cs) = (c :: piece) :: pieces.filter (!·.isEmpty) := by
        rw [words, segments, fields, if_neg hc, hpieces]
        rfl
      rw [hcons]
      exact ⟨fun h => absurd h (List.cons_ne_nil _ _), fun h => absurd h.1 hc⟩

theorem ne_nil_of_mem_words {cs word : List Char} (h : word ∈ words cs) : word ≠ [] := by
  have hne := (List.mem_filter.1 h).2
  simpa using hne

theorem not_blank_of_mem_words {cs word : List Char} (h : word ∈ words cs) {c : Char}
    (hc : c ∈ word) : isBlank c = false :=
  not_isSeparator_of_mem_fields (List.mem_filter.1 h).1 hc

/-! ### Joining -/

theorem mem_join {separator : List Char} {pieces : List (List Char)} {c : Char}
    (h : c ∈ join separator pieces) : c ∈ separator ∨ ∃ piece ∈ pieces, c ∈ piece := by
  fun_induction join separator pieces with
  | case1 => cases h
  | case2 piece => exact .inr ⟨piece, List.mem_singleton_self piece, h⟩
  | case3 piece pieces _ ih =>
    rw [List.mem_append, List.mem_append] at h
    rcases h with (h | h) | h
    · exact .inr ⟨piece, List.mem_cons_self, h⟩
    · exact .inl h
    · rcases ih h with h | ⟨other, hmem, h⟩
      · exact .inl h
      · exact .inr ⟨other, List.mem_cons_of_mem piece hmem, h⟩

/-- A separator ends a piece, whatever stands before and after it. -/
theorem fields_append_separator {isSeparator : Char → Bool} {separator : Char}
    (hseparator : isSeparator separator = true) (cs ds : List Char) :
    fields isSeparator (cs ++ separator :: ds) =
      fields isSeparator cs ++ fields isSeparator ds := by
  induction cs with
  | nil => simp [fields, hseparator]
  | cons c cs ih =>
    rw [List.cons_append, fields, fields, ih]
    split
    · rfl
    · -- The first piece goes on, and there is one.
      obtain ⟨piece, pieces, hpieces⟩ := List.exists_cons_of_ne_nil (fields_ne_nil isSeparator cs)
      rw [hpieces]
      rfl

theorem fields_append_cons {isSeparator : Char → Bool} {piece : List Char}
    (hpiece : ∀ c ∈ piece, isSeparator c = false) {separator : Char}
    (hseparator : isSeparator separator = true) (cs : List Char) :
    fields isSeparator (piece ++ separator :: cs) = piece :: fields isSeparator cs := by
  rw [fields_append_separator hseparator, fields_eq_singleton hpiece, List.singleton_append]

/-- Pieces that are each ended by a separator are found again, with an empty piece at the end. -/
theorem fields_flatMap_append_singleton {isSeparator : Char → Bool} {separator : Char}
    (hseparator : isSeparator separator = true) {pieces : List (List Char)}
    (hpieces : ∀ piece ∈ pieces, ∀ c ∈ piece, isSeparator c = false) :
    fields isSeparator (pieces.flatMap (· ++ [separator])) = pieces ++ [[]] := by
  induction pieces with
  | nil => rfl
  | cons piece pieces ih =>
    have hpiece := hpieces piece List.mem_cons_self
    have hrest := ih fun p hp => hpieces p (List.mem_cons_of_mem piece hp)
    rw [List.flatMap_cons, List.append_assoc, List.singleton_append,
      fields_append_cons hpiece hseparator, hrest, List.cons_append]

/-! ### Replacing -/

/-- The rest of an occurrence is skipped. -/
theorem replaceAll_go_append (old new front cs : List Char) :
    replaceAll.go old new front.length (front ++ cs) = replaceAll.go old new 0 cs := by
  induction front with
  | nil => rfl
  | cons c front ih => exact ih

theorem replaceAll_append {old : List Char} (hold : old ≠ []) (new cs : List Char) :
    replaceAll old new (old ++ cs) = new ++ replaceAll old new cs := by
  obtain ⟨c, rest, rfl⟩ := List.exists_cons_of_ne_nil hold
  have hinitial : (c :: rest).isPrefixOf (c :: (rest ++ cs)) = true :=
    List.isPrefixOf_iff_prefix.2 (List.prefix_append (c :: rest) cs)
  rw [replaceAll, List.cons_append, replaceAll.go, hinitial]
  exact congrArg (new ++ ·) (replaceAll_go_append (c :: rest) new rest cs)

theorem replaceAll_cons_of_not_isPrefix {old : List Char} {c : Char} {cs : List Char}
    (h : ¬ old <+: c :: cs) (new : List Char) :
    replaceAll old new (c :: cs) = c :: replaceAll old new cs := by
  have hinitial : ¬ old.isPrefixOf (c :: cs) = true := fun hp => h (List.isPrefixOf_iff_prefix.1 hp)
  rw [replaceAll, replaceAll.go, if_neg fun hp => hinitial (Bool.and_eq_true_iff.1 hp).2]
  rfl

end ApiModels.Text
