import ApiModels.Proofs.Pruning.Sections

/-!
# Security of a pruned document

A document requires a scheme if an object in its list of requirements has the scheme as a key
(`Document.Requires`). A pruned document defines the schemes of the source that are required or
extra. It requires what the source requires, in the same list, and after it every extra scheme that
the source defines and does not require, once and at its first place among the extra schemes.
`prune_securesExactly` says this, and what is left of the section where no schemes are defined.
-/

namespace ApiModels

/-- An object in the list of requirements names the scheme. -/
def Document.Requires (d : Document) (scheme : String) : Prop :=
  ∃ requirements members, d.security? = some requirements ∧
    Json.object members ∈ requirements ∧ scheme ∈ members.map (·.1)

/-- The security part of a document `o` that was pruned from one that defines security schemes. -/
structure Document.SecuredAs (d : Document) (schemes : List (String × Json)) (extra : List String)
    (o : Document) : Prop where
  /-- The definitions are those of the schemes that are required or extra. -/
  definitions : ∀ scheme definition, (scheme, definition) ∈ o.securitySchemes?.getD [] ↔
    (scheme, definition) ∈ schemes ∧ (d.Requires scheme ∨ scheme ∈ extra)
  /-- The list of requirements grows at its end by one entry for each extra scheme that is defined
  and not required, in the order in which these occur first. -/
  requirements : ∃ added : List String,
    o.security?.getD [] = d.security?.getD [] ++
      added.map (fun scheme => Json.object [(scheme, .list [])]) ∧
    (∀ scheme, scheme ∈ added ↔
      scheme ∈ extra ∧ scheme ∈ schemes.map (·.1) ∧ ¬ d.Requires scheme) ∧
    added.Pairwise fun a b => extra.idxOf a < extra.idxOf b
  absent : o.field? "security" = none ↔
    d.security? = none ∧ ∀ scheme ∈ extra, scheme ∉ schemes.map (·.1)

/-- The outcome of a pruning that keeps the security schemes that are needed. -/
structure PruneOutcome.SecuresExactly (d : Document) (extra : List String) (o : PruneOutcome) :
    Prop where
  defined : ∀ schemes, d.securitySchemes? = some schemes → d.SecuredAs schemes extra o.document
  /-- Without schemes nothing is kept but the list of requirements. -/
  undefined : d.securitySchemes? = none →
    o.document.component? "securitySchemes" = none ∧
      o.document.field? "security" = d.security?.map Json.list

/-! ### Requirements -/

section Requirements

variable {defined listed schemes : List String} {scheme : String}

/-- The schemes that get a requirement of their own: those of the list that are defined and not
required. -/
theorem mem_unlistedSchemes : scheme ∈ unlistedSchemes defined listed schemes ↔
    scheme ∈ schemes ∧ scheme ∈ defined ∧ scheme ∉ listed := by
  induction schemes generalizing listed with
  | nil => simp [unlistedSchemes]
  | cons first schemes ih =>
    rw [unlistedSchemes]
    split
    · next hfirst =>
      simp only [Bool.and_eq_true, Bool.not_eq_true', List.contains_iff_mem,
        ← Bool.not_eq_true] at hfirst
      rw [List.mem_cons, List.mem_cons, ih, List.mem_cons]
      by_cases heq : scheme = first
      · subst heq
        simp [hfirst]
      · simp [heq]
    · next hfirst =>
      simp only [Bool.and_eq_true, Bool.not_eq_true', List.contains_iff_mem,
        ← Bool.not_eq_true, not_and, Decidable.not_not] at hfirst
      rw [ih, List.mem_cons]
      by_cases heq : scheme = first
      · subst heq
        constructor
        · rintro ⟨hmem, hdefined, hlisted⟩
          exact absurd (hfirst hdefined) hlisted
        · rintro ⟨-, hdefined, hlisted⟩
          exact absurd (hfirst hdefined) hlisted
      · simp [heq]

/-- They keep the order in which they occur first in the list. -/
theorem pairwise_idxOf_unlistedSchemes : (unlistedSchemes defined listed schemes).Pairwise
    fun a b => schemes.idxOf a < schemes.idxOf b := by
  induction schemes generalizing listed with
  | nil => simp [unlistedSchemes]
  | cons first schemes ih =>
    -- Whatever comes after the first scheme is another one, so it stands one place further.
    have hrest : ∀ listed', (∀ a ∈ unlistedSchemes defined listed' schemes, a ≠ first) →
        (unlistedSchemes defined listed' schemes).Pairwise
          fun a b => (first :: schemes).idxOf a < (first :: schemes).idxOf b := by
      intro listed' hne
      refine List.Pairwise.imp_of_mem (fun {a b} ha hb hlt => ?_) ih
      rw [List.idxOf_cons_ne _ (hne a ha).symm, List.idxOf_cons_ne _ (hne b hb).symm]
      exact Nat.succ_lt_succ hlt
    rw [unlistedSchemes]
    split
    · next hfirst =>
      have hne : ∀ a ∈ unlistedSchemes defined (first :: listed) schemes, a ≠ first := by
        rintro a ha rfl
        exact (mem_unlistedSchemes.1 ha).2.2 List.mem_cons_self
      refine List.pairwise_cons.2 ⟨fun a ha => ?_, hrest _ hne⟩
      rw [List.idxOf_cons_self, List.idxOf_cons_ne _ (hne a ha).symm]
      exact Nat.succ_pos _
    · next hfirst =>
      refine hrest _ ?_
      rintro a ha rfl
      obtain ⟨-, hdefined, hlisted⟩ := mem_unlistedSchemes.1 ha
      exact hfirst (by simp [hdefined, hlisted])

/-- Two of the schemes are defined and not listed; one of them occurs twice. -/
example : unlistedSchemes ["basic", "key", "token"] ["key"]
    ["token", "key", "none", "basic", "token"] = ["token", "basic"] := by
  decide

theorem mem_mentionedSchemes {requirements : List Json} :
    scheme ∈ mentionedSchemes requirements ↔
      ∃ members, Json.object members ∈ requirements ∧ scheme ∈ members.map (·.1) := by
  rw [mentionedSchemes, List.mem_flatMap]
  constructor
  · rintro ⟨requirement, hrequirement, hscheme⟩
    cases requirement with
    | object members => exact ⟨members, hrequirement, hscheme⟩
    | _ => simp [requiredSchemes, Json.members?] at hscheme
  · rintro ⟨members, hrequirement, hscheme⟩
    exact ⟨.object members, hrequirement, hscheme⟩

theorem mentionedSchemes_append (a b : List Json) :
    mentionedSchemes (a ++ b) = mentionedSchemes a ++ mentionedSchemes b :=
  List.flatMap_append

/-- A requirement that is added names its scheme and nothing else. -/
theorem mentionedSchemes_map_schemeRequirement (schemes : List String) :
    mentionedSchemes (schemes.map schemeRequirement) = schemes := by
  induction schemes with
  | nil => rfl
  | cons scheme schemes ih =>
    show scheme :: mentionedSchemes (schemes.map schemeRequirement) = scheme :: schemes
    rw [ih]

end Requirements

namespace Document

variable (d : Document) (extra : List String)

theorem requires_iff {scheme : String} :
    d.Requires scheme ↔ scheme ∈ mentionedSchemes (d.security?.getD []) := by
  rw [mem_mentionedSchemes, Requires]
  cases d.security? with
  | none => simp
  | some requirements => simp

theorem getD_keptSecurity :
    (d.keptSecurity extra).getD [] = d.security?.getD [] ++ d.addedRequirements extra := by
  rw [keptSecurity]
  split
  · next hnone hadded => simp [hnone, hadded]
  · rfl

/-- The kept requirements name what was required and every extra scheme that is defined. -/
theorem mem_mentionedSchemes_keptSecurity {scheme : String} :
    scheme ∈ mentionedSchemes ((d.keptSecurity extra).getD []) ↔
      scheme ∈ mentionedSchemes (d.security?.getD []) ∨
        scheme ∈ extra ∧ scheme ∈ (d.securitySchemes?.getD []).map (·.1) := by
  rw [getD_keptSecurity, mentionedSchemes_append, addedRequirements,
    mentionedSchemes_map_schemeRequirement, List.mem_append, mem_unlistedSchemes]
  by_cases hrequired : scheme ∈ mentionedSchemes (d.security?.getD [])
  · simp [hrequired]
  · simp [hrequired]

theorem keptSecurity_eq_none_iff : d.keptSecurity extra = none ↔ d.security? = none ∧
    ∀ scheme ∈ extra, scheme ∉ (d.securitySchemes?.getD []).map (·.1) := by
  have hadded : d.addedRequirements extra = [] ↔ ∀ scheme ∈ extra,
      scheme ∈ (d.securitySchemes?.getD []).map (·.1) → d.Requires scheme := by
    rw [addedRequirements, List.map_eq_nil_iff, List.eq_nil_iff_forall_not_mem]
    simp only [mem_unlistedSchemes, requires_iff, not_and, Decidable.not_not]
  rw [keptSecurity]
  split
  · next hnone hnil =>
    constructor
    · -- Without requirements nothing is required, so no extra scheme is defined.
      intro _
      refine ⟨hnone, ?_⟩
      intro scheme hextra hdefined
      obtain ⟨_, _, hsome, -⟩ := hadded.1 hnil scheme hextra hdefined
      cases hnone.symm.trans hsome
    · intro _
      rfl
  · next hboth =>
    constructor
    · intro h
      cases h
    · rintro ⟨hnone, hextra⟩
      have hnil : d.addedRequirements extra = [] := by
        refine hadded.2 ?_
        intro scheme hmem hdefined
        exact absurd hdefined (hextra scheme hmem)
      exact absurd hnil (hboth hnone)

end Document

namespace Pruner

variable (p : Pruner) (d : Document)

/-! ### The security part -/

theorem component?_securitySchemes : (p.prune d).document.component? "securitySchemes" =
    if d.keptSchemes p.extraSchemes = [] then none
    else some (.object (d.keptSchemes p.extraSchemes)) := by
  rw [Document.component?, field?_components]
  by_cases hnone : d.keptSchemes p.extraSchemes = []
  · simp [keptComponents, hnone, Json.get?, Json.members?, List.lookup_cons]
  · simp [keptComponents, hnone, Json.get?, Json.members?, List.lookup_cons]

theorem securitySchemes?_prune : (p.prune d).document.securitySchemes?.getD [] =
    d.keptSchemes p.extraSchemes := by
  rw [Document.securitySchemes?, component?_securitySchemes]
  by_cases hnone : d.keptSchemes p.extraSchemes = []
  · -- The section is left out if no scheme is kept.
    simp [hnone]
  · simp [hnone, Json.members?]

theorem field?_security : (p.prune d).document.field? "security" =
    (d.keptSecurity p.extraSchemes).map .list := by
  rw [Document.field?, members_prune, keptMembers]
  cases d.keptSecurity p.extraSchemes with
  | none => simp [List.lookup_cons]
  | some requirements => simp [List.lookup_cons]

theorem security?_prune :
    (p.prune d).document.security? = d.keptSecurity p.extraSchemes := by
  rw [Document.security?, field?_security]
  cases d.keptSecurity p.extraSchemes with
  | none => rfl
  | some requirements => rfl

variable {d} in
theorem securedAs_prune {schemes : List (String × Json)} (h : d.securitySchemes? = some schemes) :
    d.SecuredAs schemes p.extraSchemes (p.prune d).document := by
  constructor
  case definitions =>
    intro scheme definition
    rw [securitySchemes?_prune, Document.keptSchemes, h, List.mem_filter, Bool.or_eq_true,
      List.contains_iff_mem, List.contains_iff_mem, d.requires_iff]
    rfl
  case requirements =>
    refine ⟨unlistedSchemes (schemes.map (·.1)) (mentionedSchemes (d.security?.getD []))
      p.extraSchemes, ?_, fun scheme => ?_, pairwise_idxOf_unlistedSchemes⟩
    · rw [security?_prune, Document.getD_keptSecurity, Document.addedRequirements, h]
      rfl
    · rw [mem_unlistedSchemes, d.requires_iff]
  case absent =>
    rw [field?_security, Option.map_eq_none_iff, Document.keptSecurity_eq_none_iff, h]
    rfl

/-- **A pruned document has the security that the source requires and the extra schemes add.** -/
theorem prune_securesExactly : (p.prune d).SecuresExactly d p.extraSchemes := by
  refine ⟨fun schemes h => p.securedAs_prune h, fun h => ?_⟩
  have hschemes : d.keptSchemes p.extraSchemes = [] := by
    rw [Document.keptSchemes, h]
    rfl
  have hadded : d.addedRequirements p.extraSchemes = [] := by
    rw [Document.addedRequirements, h, List.map_eq_nil_iff, List.eq_nil_iff_forall_not_mem]
    intro scheme hscheme
    exact absurd (mem_unlistedSchemes.1 hscheme).2.1 List.not_mem_nil
  have hsecurity : d.keptSecurity p.extraSchemes = d.security? := by
    rw [Document.keptSecurity, hadded]
    cases d.security? with
    | none => rfl
    | some requirements => exact congrArg some (List.append_nil requirements)
  rw [component?_securitySchemes, if_pos hschemes, field?_security, hsecurity]
  exact ⟨rfl, rfl⟩

end Pruner

end ApiModels
