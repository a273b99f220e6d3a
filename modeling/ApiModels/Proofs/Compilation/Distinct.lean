import ApiModels.Compilation.Identifiers
import Mathlib.Data.List.Forall2
import Mathlib.Data.List.Nodup
import Mathlib.Data.List.Perm.Subperm

/-!
# Identifiers made distinct

An identifier is kept if it is none of the earlier results; otherwise it gets the least number from
two on with which it is none of them (`IsMadeDistinct`). The earlier results are those of the same
run, so a number can make an identifier that comes later a repetition. Making identifiers distinct
does this at every place, whatever the identifiers are (`uniquify_makesDistinct`), and the search
for a number ends after at most as many steps as there are earlier results
(`lt_length_of_numbered_mem`).

An identifier that is used nowhere can be put in between, and changes no other one
(`uniquifyAfter_append_cons`).
-/

namespace ApiModels

/-- What becomes of an identifier after the earlier results. -/
inductive IsMadeDistinct (earlier : List String) (identifier : String) : String → Prop
  /-- It is none of the earlier results. -/
  | kept (hnew : identifier ∉ earlier) : IsMadeDistinct earlier identifier identifier
  /-- It is one of them, and gets the least number from two on with which it is none. -/
  | suffixed {n : Nat} (htaken : identifier ∈ earlier) (htwo : 2 ≤ n)
      (hfree : numbered identifier n ∉ earlier)
      (hleast : ∀ m, 2 ≤ m → m < n → numbered identifier m ∈ earlier)
      (hbound : n ≤ earlier.length + 1) :
      IsMadeDistinct earlier identifier (numbered identifier n)

/-- The results are as many as the identifiers, no two of them are the same, and each is made of the
identifier at its place. -/
structure AreMadeDistinct (identifiers results : List String) : Prop where
  length_eq : results.length = identifiers.length
  nodup : results.Nodup
  step : ∀ i (_ : i < identifiers.length) (_ : i < results.length),
    IsMadeDistinct (results.take i) identifiers[i] results[i]

/-! ### Numbers -/

theorem numbered_injective (identifier : String) : (numbered identifier).Injective := by
  intro m n h
  have hread : ∀ n : Nat, Nat.ofDigitChars 10 (toString n).toList 0 = n := by
    intro n
    rw [Nat.toString_eq_ofList_toDigits, String.toList_ofList]
    exact Nat.ofDigitChars_toDigits (by decide) (by decide)
  have hlist := congrArg String.toList h
  simp only [numbered, String.toList_append] at hlist
  have hdigits := List.append_cancel_left hlist
  rw [← hread m, ← hread n, hdigits]

theorem numbered_ne (identifier : String) (n : Nat) : numbered identifier n ≠ identifier := by
  intro h
  have hlength := congrArg (fun s : String => s.toList.length) h
  simp only [numbered, String.toList_append, List.length_append] at hlength
  have hunderscore : "_".toList.length = 1 := rfl
  omega

/-- No more numbers are taken than there are earlier identifiers. -/
theorem le_length_of_numbered_mem {earlier : List String} {identifier : String} {n : Nat}
    (h : ∀ m < n, numbered identifier (m + 2) ∈ earlier) : n ≤ earlier.length := by
  have hall : (List.range n).map (fun m => numbered identifier (m + 2)) ⊆ earlier := by
    intro candidate hmem
    obtain ⟨m, hm, rfl⟩ := List.mem_map.1 hmem
    exact h m (List.mem_range.1 hm)
  have hnodup : ((List.range n).map fun m => numbered identifier (m + 2)).Nodup :=
    List.nodup_range.map fun i j hij => Nat.add_right_cancel (numbered_injective identifier hij)
  have hle := (hnodup.subperm hall).length_le
  rwa [List.length_map, List.length_range] at hle

/-- The identifier itself is one more earlier result than there are numbers taken. -/
theorem lt_length_of_numbered_mem {earlier : List String} {identifier : String} {n : Nat}
    (htaken : identifier ∈ earlier) (h : ∀ m < n, numbered identifier (m + 2) ∈ earlier) :
    n < earlier.length := by
  have hrest : ∀ m < n, numbered identifier (m + 2) ∈ earlier.erase identifier := fun m hm =>
    (List.mem_erase_of_ne (numbered_ne identifier (m + 2))).2 (h m hm)
  have hle := le_length_of_numbered_mem hrest
  rw [List.length_erase_of_mem htaken] at hle
  have hpos := List.length_pos_of_mem htaken
  omega

/-- **An identifier gets the least number that makes it free.** Among one more candidates than there
are earlier identifiers one is free. -/
theorem freeIdentifier_spec (earlier : List String) (identifier : String) :
    ∃ n, freeIdentifier earlier identifier = numbered identifier (n + 2) ∧
      numbered identifier (n + 2) ∉ earlier ∧ ∀ m < n, numbered identifier (m + 2) ∈ earlier := by
  unfold freeIdentifier
  simp only
  cases hfind : ((List.range (earlier.length + 1)).map fun i => numbered identifier (i + 2)).find?
      (!earlier.contains ·) with
  | some candidate =>
    rw [List.find?_map, Option.map_eq_some_iff] at hfind
    obtain ⟨n, hn, rfl⟩ := hfind
    obtain ⟨hfree, -, hleast⟩ := List.find?_range_eq_some.1 hn
    refine ⟨n, rfl, ?_, fun m hm => ?_⟩
    · simpa using hfree
    · simpa using hleast m hm
  | none =>
    -- All candidates would be among the earlier identifiers, of which there are fewer.
    have hall : ∀ m < earlier.length + 1, numbered identifier (m + 2) ∈ earlier := by
      intro m hm
      have htaken := List.find?_eq_none.1 hfind _
        (List.mem_map.2 ⟨m, List.mem_range.2 hm, rfl⟩)
      simpa using htaken
    exact absurd (le_length_of_numbered_mem hall) (Nat.not_succ_le_self _)

theorem freeIdentifier_eq {earlier : List String} {identifier : String} {n : Nat}
    (hfree : numbered identifier (n + 2) ∉ earlier)
    (hleast : ∀ m < n, numbered identifier (m + 2) ∈ earlier) :
    freeIdentifier earlier identifier = numbered identifier (n + 2) := by
  obtain ⟨k, heq, hkfree, hkleast⟩ := freeIdentifier_spec earlier identifier
  rw [heq]
  rcases Nat.lt_trichotomy k n with hlt | rfl | hlt
  · exact absurd (hleast k hlt) hkfree
  · rfl
  · exact absurd (hkleast n hlt) hfree

/-! ### One identifier -/

/-- Only which earlier results there are matters, and how many, not their order. -/
theorem IsMadeDistinct.of_perm {earlier others : List String} {identifier result : String}
    (h : IsMadeDistinct earlier identifier result) (hperm : earlier.Perm others) :
    IsMadeDistinct others identifier result := by
  cases h with
  | kept hnew => exact .kept fun hmem => hnew (hperm.mem_iff.2 hmem)
  | suffixed htaken htwo hfree hleast hbound =>
    refine .suffixed (hperm.mem_iff.1 htaken) htwo (fun hmem => hfree (hperm.mem_iff.2 hmem)) ?_ ?_
    · exact fun m hm hlt => hperm.mem_iff.1 (hleast m hm hlt)
    · rwa [← hperm.length_eq]

theorem IsMadeDistinct.not_mem {earlier : List String} {identifier result : String}
    (h : IsMadeDistinct earlier identifier result) : result ∉ earlier := by
  cases h with
  | kept hnew => exact hnew
  | suffixed _ _ hfree _ _ => exact hfree

theorem isMadeDistinct_freeIdentifier {earlier : List String} {identifier : String}
    (htaken : identifier ∈ earlier) :
    IsMadeDistinct earlier identifier (freeIdentifier earlier identifier) := by
  obtain ⟨n, heq, hfree, hleast⟩ := freeIdentifier_spec earlier identifier
  have hlt := lt_length_of_numbered_mem htaken hleast
  rw [heq]
  refine .suffixed htaken (Nat.le_add_left 2 n) hfree (fun m htwo hm => ?_) (by omega)
  obtain ⟨k, rfl⟩ := Nat.exists_eq_add_of_le' htwo
  exact hleast k (Nat.lt_of_add_lt_add_right hm)

/-- The first identifier is made distinct from the earlier ones, and is then one of them. -/
theorem exists_isMadeDistinct_cons (earlier : List String) (first : String) :
    ∃ unique, IsMadeDistinct earlier first unique ∧ ∀ identifiers,
      uniquifyAfter earlier (first :: identifiers) =
        unique :: uniquifyAfter (unique :: earlier) identifiers := by
  refine ⟨_, ?_, fun identifiers => rfl⟩
  by_cases htaken : first ∈ earlier
  · rw [if_pos (List.contains_iff_mem.2 htaken)]
    exact isMadeDistinct_freeIdentifier htaken
  · rw [if_neg fun hcontains => htaken (List.contains_iff_mem.1 hcontains)]
    exact .kept htaken

/-! ### All identifiers -/

theorem isMadeDistinct_getElem (earlier identifiers : List String) {i : Nat}
    (hi : i < identifiers.length) (hi' : i < (uniquifyAfter earlier identifiers).length) :
    IsMadeDistinct ((uniquifyAfter earlier identifiers).take i ++ earlier) identifiers[i]
      (uniquifyAfter earlier identifiers)[i] := by
  induction identifiers generalizing earlier i with
  | nil => exact absurd hi (Nat.not_lt_zero i)
  | cons first identifiers ih =>
    obtain ⟨unique, hunique, hcons⟩ := exists_isMadeDistinct_cons earlier first
    simp only [hcons] at hi' ⊢
    cases i with
    | zero => exact hunique
    | succ i =>
      -- The result for the first identifier is the last of the earlier ones for the others.
      have hrest := ih (unique :: earlier) (Nat.lt_of_succ_lt_succ hi) (Nat.lt_of_succ_lt_succ hi')
      exact hrest.of_perm List.perm_middle

theorem nodup_uniquifyAfter (earlier identifiers : List String) :
    (uniquifyAfter earlier identifiers).Nodup ∧
      ∀ identifier ∈ uniquifyAfter earlier identifiers, identifier ∉ earlier := by
  induction identifiers generalizing earlier with
  | nil => exact ⟨List.nodup_nil, fun _ hmem => nomatch hmem⟩
  | cons first identifiers ih =>
    obtain ⟨unique, hunique, hcons⟩ := exists_isMadeDistinct_cons earlier first
    obtain ⟨hnodup, hrest⟩ := ih (unique :: earlier)
    rw [hcons]
    refine ⟨List.nodup_cons.2 ⟨fun hmem => hrest unique hmem List.mem_cons_self, hnodup⟩, ?_⟩
    intro identifier hmem
    rcases List.mem_cons.1 hmem with rfl | hmem
    · exact hunique.not_mem
    · exact fun hearlier => hrest identifier hmem (List.mem_cons_of_mem unique hearlier)

theorem nodup_uniquify (identifiers : List String) : (uniquify identifiers).Nodup :=
  (nodup_uniquifyAfter [] identifiers).1

theorem uniquifyAfter_eq_self {earlier identifiers : List String} (hnodup : identifiers.Nodup)
    (hnew : ∀ identifier ∈ identifiers, identifier ∉ earlier) :
    uniquifyAfter earlier identifiers = identifiers := by
  induction identifiers generalizing earlier with
  | nil => rfl
  | cons first identifiers ih =>
    obtain ⟨hfirst, hrest⟩ := List.nodup_cons.1 hnodup
    have hfree : ¬ earlier.contains first = true := by
      rw [List.contains_iff_mem]
      exact hnew first List.mem_cons_self
    rw [uniquifyAfter, if_neg hfree, ih hrest]
    intro identifier hmem
    rw [List.mem_cons, not_or]
    refine ⟨?_, hnew identifier (List.mem_cons_of_mem first hmem)⟩
    rintro rfl
    exact hfirst hmem

theorem uniquify_eq_self_iff {identifiers : List String} :
    uniquify identifiers = identifiers ↔ identifiers.Nodup := by
  constructor
  · intro h
    rw [← h]
    exact nodup_uniquify identifiers
  · exact fun h => uniquifyAfter_eq_self h fun _ _ => List.not_mem_nil

/-- **Identifiers are made distinct.** There are as many results as identifiers, and no two of them
are the same. An identifier is kept unless it is among the results before it, and gets the least
number from two on that makes it new if it is; this number is at most one more than there are
results before it. Exactly identifiers that do not repeat stay as they are, so doing it again
changes nothing. -/
theorem uniquify_makesDistinct (identifiers : List String) :
    AreMadeDistinct identifiers (uniquify identifiers) ∧
      (uniquify identifiers = identifiers ↔ identifiers.Nodup) ∧
      uniquify (uniquify identifiers) = uniquify identifiers := by
  refine ⟨⟨length_uniquify identifiers, nodup_uniquify identifiers, ?_⟩, uniquify_eq_self_iff, ?_⟩
  · intro i hi hi'
    have hstep := isMadeDistinct_getElem [] identifiers hi hi'
    rwa [List.append_nil] at hstep
  · exact uniquify_eq_self_iff.2 (nodup_uniquify identifiers)

/-- A number is not given twice, and one that was given makes a later identifier a repetition. -/
example : uniquify ["a", "a", "a_2", "a"] = ["a", "a_2", "a_2_2", "a_3"] := by
  decide +kernel

/-! ### Variants -/

/-- A name is the given one, or that with a number from two on. -/
def IsVariantOf (base name : String) : Prop := name = base ∨ ∃ n, 2 ≤ n ∧ name = numbered base n

theorem IsMadeDistinct.isVariantOf {earlier : List String} {identifier result : String}
    (h : IsMadeDistinct earlier identifier result) : IsVariantOf identifier result := by
  cases h with
  | kept _ => exact .inl rfl
  | suffixed _ htwo _ _ _ => exact .inr ⟨_, htwo, rfl⟩

/-- **What is made distinct are variants of the identifiers**, in their order. -/
theorem forall₂_uniquifyAfter (earlier identifiers : List String) :
    List.Forall₂ IsVariantOf identifiers (uniquifyAfter earlier identifiers) := by
  induction identifiers generalizing earlier with
  | nil => exact .nil
  | cons first identifiers ih =>
    obtain ⟨unique, hunique, hcons⟩ := exists_isMadeDistinct_cons earlier first
    rw [hcons]
    exact .cons hunique.isVariantOf (ih _)

/-- Members with distinct names that are made from others have variants of these. -/
theorem isVariantOf_of_map_eq {α : Type} {l : List α} {f g : α → String}
    (h : l.map f = uniquify (l.map g)) : ∀ a ∈ l, IsVariantOf (g a) (f a) := by
  have hvariants := forall₂_uniquifyAfter [] (l.map g)
  rw [← uniquify, ← h, List.forall₂_map_left_iff, List.forall₂_map_right_iff] at hvariants
  exact List.forall₂_same.1 hvariants

/-! ### One more identifier -/

section Added

variable {earlier others : List String} {added : String}

/-- One more earlier identifier makes no difference, unless it is the one that was free. -/
theorem freeIdentifier_of_added {identifier : String}
    (hothers : ∀ other, other ∈ others ↔ other = added ∨ other ∈ earlier)
    (hne : added ≠ freeIdentifier earlier identifier) :
    freeIdentifier others identifier = freeIdentifier earlier identifier := by
  obtain ⟨n, heq, hfree, hleast⟩ := freeIdentifier_spec earlier identifier
  rw [heq] at hne ⊢
  refine freeIdentifier_eq ?_ fun m hm => (hothers _).2 (.inr (hleast m hm))
  intro hmem
  rcases (hothers _).1 hmem with hadded | hearlier
  · exact hne hadded.symm
  · exact hfree hearlier

/-- One more earlier identifier that is used nowhere leaves all others as they are. -/
theorem uniquifyAfter_of_added {identifiers : List String}
    (hothers : ∀ other, other ∈ others ↔ other = added ∨ other ∈ earlier)
    (hunused : added ∉ uniquifyAfter earlier identifiers) :
    uniquifyAfter others identifiers = uniquifyAfter earlier identifiers := by
  induction identifiers generalizing earlier others with
  | nil => rfl
  | cons identifier identifiers ih =>
    rw [uniquifyAfter, List.mem_cons, not_or] at hunused
    obtain ⟨hne, hrest⟩ := hunused
    have hunique : (if others.contains identifier then freeIdentifier others identifier
        else identifier) =
        if earlier.contains identifier then freeIdentifier earlier identifier else identifier := by
      by_cases htaken : earlier.contains identifier = true
      · have htaken' : others.contains identifier = true :=
          List.contains_iff_mem.2 ((hothers _).2 (.inr (List.contains_iff_mem.1 htaken)))
        rw [if_pos htaken] at hne ⊢
        rw [if_pos htaken']
        exact freeIdentifier_of_added hothers hne
      · rw [if_neg htaken] at hne ⊢
        refine if_neg fun htaken' => ?_
        rcases (hothers _).1 (List.contains_iff_mem.1 htaken') with hadded | hmem
        · exact hne hadded.symm
        · exact htaken (List.contains_iff_mem.2 hmem)
    rw [uniquifyAfter, uniquifyAfter, hunique]
    -- The two runs go on from lists with the same identifiers, one of which has the new one too.
    refine congrArg _ (ih (fun other => ?_) hrest)
    rw [List.mem_cons, List.mem_cons, hothers]
    exact or_left_comm

/-- **An identifier that is used nowhere is put in between**: it stays as it is, and so do those
before and those after it. -/
theorem uniquifyAfter_append_cons {before after : List String} (hearlier : added ∉ earlier)
    (hunused : added ∉ uniquifyAfter earlier (before ++ after)) :
    ∃ front back, front.length = before.length ∧
      uniquifyAfter earlier (before ++ after) = front ++ back ∧
      uniquifyAfter earlier (before ++ added :: after) = front ++ added :: back := by
  induction before generalizing earlier with
  | nil =>
    rw [List.nil_append] at hunused
    refine ⟨[], uniquifyAfter earlier after, rfl, rfl, ?_⟩
    have hfree : ¬ earlier.contains added = true := by rwa [List.contains_iff_mem]
    show uniquifyAfter earlier (added :: after) = added :: uniquifyAfter earlier after
    rw [uniquifyAfter, if_neg hfree, uniquifyAfter_of_added (fun _ => List.mem_cons) hunused]
  | cons first before ih =>
    obtain ⟨unique, -, hcons⟩ := exists_isMadeDistinct_cons earlier first
    rw [List.cons_append, hcons, List.mem_cons, not_or] at hunused
    obtain ⟨hne, hrest⟩ := hunused
    have hnext : added ∉ unique :: earlier := by
      rw [List.mem_cons, not_or]
      exact ⟨hne, hearlier⟩
    obtain ⟨front, back, hlength, hold, hnew⟩ := ih hnext hrest
    refine ⟨unique :: front, back, congrArg (· + 1) hlength, ?_, ?_⟩
    · rw [List.cons_append, hcons, hold, List.cons_append]
    · rw [List.cons_append, hcons, hnew, List.cons_append]

end Added

end ApiModels
