import ApiModels.Proofs.Compilation.Distinct
import ApiModels.Proofs.Compilation.Names
import ApiModels.Proofs.Swift.Identifier

/-!
# Identifiers of members and cases

Whatever the names in a document are, what is made of them is an identifier
(`isIdentifier_memberName`, `isIdentifier_caseName`), and it still is one when it has been made
distinct from others (`isIdentifier_of_mem_uniquify`).
-/

namespace ApiModels

open Naming Swift

/-! ### Identifiers from names -/

theorem isIdentifierChar_of_mem_transliterated {cs : List Char} {c : Char}
    (h : c ∈ transliterated cs) : isIdentifierChar c = true := by
  obtain ⟨d, -, rfl⟩ := List.mem_map.1 h
  split
  · assumption
  · rfl

theorem isIdentifierStart_of_not_isDigit {c : Char} (h : isIdentifierChar c = true)
    (hdigit : ¬ c.isDigit = true) : isIdentifierStart c = true := by
  simp only [isIdentifierChar, isIdentifierStart, Char.isAlphanum, Bool.or_eq_true] at h ⊢
  rcases h with (halpha | hd) | hunderscore
  · exact .inl halpha
  · exact absurd hd hdigit
  · exact .inr hunderscore

/-- A text of such characters is an identifier once something is put before a digit at its start. -/
theorem isIdentifier_guardDigit {start : String} (hstart : IsIdentifier start) {cs : List Char}
    (hne : cs ≠ []) (hcs : ∀ c ∈ cs, isIdentifierChar c = true) :
    IsIdentifier (String.ofList (guardDigit start.toList cs)) := by
  unfold IsIdentifier
  rw [String.toList_ofList]
  cases cs with
  | nil => exact absurd rfl hne
  | cons c cs =>
    by_cases hdigit : c.isDigit = true
    · -- The digit is no longer at the start.
      obtain ⟨d, rest, hlist, hd, hrest⟩ := hstart
      refine ⟨d, rest ++ c :: cs, ?_, hd, fun e he => ?_⟩
      · rw [guardDigit, if_pos hdigit, hlist, List.cons_append]
      · exact (List.mem_append.1 he).elim (hrest e) (hcs e)
    · refine ⟨c, cs, ?_, ?_, fun e he => hcs e (List.mem_cons_of_mem c he)⟩
      · rw [guardDigit, if_neg hdigit]
      · exact isIdentifierStart_of_not_isDigit (hcs c List.mem_cons_self) hdigit

theorem isIdentifier_memberName (name : String) : IsIdentifier (memberName name) := by
  unfold memberName
  simp only
  split
  · decide
  · next hne =>
    have hstart : IsIdentifier "_" := by decide
    refine isIdentifier_guardDigit hstart ?_ fun c => isIdentifierChar_of_mem_transliterated
    exact fun hnil => hne (List.isEmpty_iff.2 hnil)

theorem isIdentifier_caseName (literal : String) :
    IsIdentifier (RenderProfile.default.caseName literal) := by
  unfold RenderProfile.caseName
  simp only
  split
  · decide
  · next hne =>
    have hstart : IsIdentifier RenderProfile.default.digitCaseStart := by decide
    refine isIdentifier_guardDigit hstart ?_ fun c => isIdentifierChar_of_mem_transliterated
    exact fun hnil => hne (List.isEmpty_iff.2 hnil)

theorem IsGenerated.isIdentifier {name : String} (h : IsGenerated name) : IsIdentifier name := by
  obtain ⟨rest, hrest⟩ := h.marker
  refine ⟨'G', "enerated".toList ++ rest, hrest.symm, rfl, fun c hc => ?_⟩
  have hmem : c ∈ name.toList := by
    rw [← hrest]
    exact List.mem_cons_of_mem 'G' hc
  exact Bool.or_eq_true_iff.2 (.inl (h.word c hmem))

/-! ### Distinct identifiers -/

theorem isIdentifier_numbered {identifier : String} (h : IsIdentifier identifier) (n : Nat) :
    IsIdentifier (numbered identifier n) := by
  obtain ⟨c, rest, hlist, hc, hrest⟩ := h
  refine ⟨c, rest ++ '_' :: (toString n).toList, ?_, hc, fun d hd => ?_⟩
  · simp [numbered, hlist]
  · rcases List.mem_append.1 hd with hd | hd
    · exact hrest d hd
    · rcases List.mem_cons.1 hd with rfl | hd
      · rfl
      · rw [Nat.toString_eq_ofList_toDigits, String.toList_ofList] at hd
        have hdigit := Nat.isDigit_of_mem_toDigits (by decide) (by decide) hd
        simp only [isIdentifierChar, Char.isAlphanum, hdigit, Bool.or_true, Bool.true_or]

theorem IsVariantOf.isIdentifier {base name : String} (h : IsVariantOf base name)
    (hbase : IsIdentifier base) : IsIdentifier name := by
  rcases h with rfl | ⟨n, -, rfl⟩
  · exact hbase
  · exact isIdentifier_numbered hbase n

theorem isIdentifier_of_mem_uniquify {identifiers : List String}
    (h : ∀ identifier ∈ identifiers, IsIdentifier identifier) :
    ∀ identifier ∈ uniquify identifiers, IsIdentifier identifier := by
  have hvariants := forall₂_uniquifyAfter [] identifiers
  rw [← uniquify] at hvariants
  intro identifier hmem
  obtain ⟨i, hi, rfl⟩ := List.getElem_of_mem hmem
  have hbase : i < identifiers.length := hvariants.length_eq ▸ hi
  exact (hvariants.get hbase hi).isIdentifier (h _ (List.getElem_mem hbase))

end ApiModels
