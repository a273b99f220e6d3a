import ApiModels.Compilation.Equatable
import Mathlib.Data.List.Forall2

/-!
# Propagation of comparability

Propagation changes the marks of the records and nothing else (`forall₂_marked_propagateEquatable`).
Whether a record can be compared depends on the records that it leads to. So if the records that are
kept refer to no others, propagation among them gives what it gives among all
(`filter_propagateEquatable`).
-/

namespace ApiModels

variable {records : List RecordType} {keep : String → Bool}

namespace RecordType

@[simp] theorem name_spoiledBy (names : List String) (r : RecordType) :
    (r.spoiledBy names).name = r.name := by
  unfold spoiledBy
  split <;> rfl

@[simp] theorem properties_spoiledBy (names : List String) (r : RecordType) :
    (r.spoiledBy names).properties = r.properties := by
  unfold spoiledBy
  split <;> rfl

@[simp] theorem sourceName_spoiledBy (names : List String) (r : RecordType) :
    (r.spoiledBy names).sourceName = r.sourceName := by
  unfold spoiledBy
  split <;> rfl

/-- The record with another mark of comparability. -/
def marked (r : RecordType) (mark : Bool) : RecordType := { r with isEquatable := mark }

@[simp] theorem marked_spoiledBy (names : List String) (r : RecordType) (mark : Bool) :
    (r.spoiledBy names).marked mark = r.marked mark := by
  unfold spoiledBy
  split <;> rfl

end RecordType

theorem propagateEquatable_spoiled (records : List RecordType) :
    propagateEquatable (records.map (RecordType.spoiledBy (opaqueNames records))) =
      propagateEquatable records := by
  by_cases h : records.map (RecordType.spoiledBy (opaqueNames records)) = records
  · rw [h]
  · have hstep := propagateEquatable.eq_def records
    rw [dif_neg h] at hstep
    exact hstep.symm

/-- Propagation keeps whatever does not depend on the marks. -/
theorem map_propagateEquatable {α : Type} {f : RecordType → α}
    (h : ∀ names r, f (RecordType.spoiledBy names r) = f r) (records : List RecordType) :
    (propagateEquatable records).map f = records.map f := by
  induction hn : (equatables records).length using Nat.strongRecOn generalizing records with
  | ind n ih =>
    subst hn
    by_cases hfix : records.map (RecordType.spoiledBy (opaqueNames records)) = records
    · rw [propagateEquatable, dif_pos hfix]
    · have hrest := ih _ (length_equatables_map_lt hfix) _ rfl
      have hspoiled : f ∘ RecordType.spoiledBy (opaqueNames records) = f := funext (h _)
      rw [propagateEquatable_spoiled, List.map_map, hspoiled] at hrest
      exact hrest

theorem forall₂_marked_propagateEquatable (records : List RecordType) :
    List.Forall₂ (fun r r' : RecordType => r' = r.marked r'.isEquatable) records
      (propagateEquatable records) := by
  have hmap := map_propagateEquatable (f := fun r => r.marked false)
    (fun names r => r.marked_spoiledBy names false) records
  rw [← List.forall₂_eq_eq_eq, List.forall₂_map_left_iff, List.forall₂_map_right_iff] at hmap
  refine List.Forall₂.flip (hmap.imp fun r' r hunmarked => ?_)
  have hmarked := congrArg (·.marked r'.isEquatable) hunmarked
  exact hmarked

/-- A relation that does not look at the marks holds of the propagated records if it holds before.
-/
theorem forall₂_propagateEquatable_iff {R : RecordType → RecordType → Prop}
    (hR : ∀ r s mark, R (r.marked mark) (s.marked mark) ↔ R r s)
    {records records' : List RecordType} :
    List.Forall₂ R (propagateEquatable records) (propagateEquatable records') ↔
      List.Forall₂ R records records' := by
  have hunmark : ∀ rs ss : List RecordType, List.Forall₂ R (rs.map (·.marked false))
      (ss.map (·.marked false)) ↔ List.Forall₂ R rs ss := by
    intro rs ss
    rw [List.forall₂_map_left_iff, List.forall₂_map_right_iff]
    simp only [hR]
  have hpropagate : ∀ records, (propagateEquatable records).map (·.marked false) =
      records.map (·.marked false) :=
    map_propagateEquatable fun names r => r.marked_spoiledBy names false
  rw [← hunmark, hpropagate, hpropagate, hunmark]

theorem mem_opaqueNames {name : String} :
    name ∈ opaqueNames records ↔ ∃ r ∈ records, r.isEquatable = false ∧ r.name = name := by
  simp [opaqueNames, and_assoc]

/-- The records that are kept refer to no record that is not. -/
def RecordsClosed (keep : String → Bool) (records : List RecordType) : Prop :=
  ∀ r ∈ records, keep r.name = true → ∀ p ∈ r.properties, ∀ s ∈ records,
    s.name = innermostType p.type → keep s.name = true

namespace RecordsClosed

theorem spoiled (h : RecordsClosed keep records) (names : List String) :
    RecordsClosed keep (records.map (RecordType.spoiledBy names)) := by
  intro _ hspoiled hkeep p hp _ hspoiled' hname
  obtain ⟨r, hr, rfl⟩ := List.mem_map.1 hspoiled
  obtain ⟨s, hs, rfl⟩ := List.mem_map.1 hspoiled'
  simp only [RecordType.name_spoiledBy, RecordType.properties_spoiledBy] at hkeep hp hname ⊢
  exact h r hr hkeep p hp s hs hname

/-- A kept record is spoiled by the records that are kept as by all. -/
theorem spoiledBy_eq (h : RecordsClosed keep records) {r : RecordType} (hr : r ∈ records)
    (hkeep : keep r.name = true) :
    r.spoiledBy (opaqueNames (records.filter (keep ·.name))) =
      r.spoiledBy (opaqueNames records) := by
  have hcontains : ∀ p ∈ r.properties,
      (opaqueNames (records.filter (keep ·.name))).contains (innermostType p.type) =
        (opaqueNames records).contains (innermostType p.type) := by
    intro p hp
    rw [Bool.eq_iff_iff, List.contains_iff_mem, List.contains_iff_mem, mem_opaqueNames,
      mem_opaqueNames]
    constructor
    · rintro ⟨s, hs, hopaque, hname⟩
      exact ⟨s, (List.mem_filter.1 hs).1, hopaque, hname⟩
    · rintro ⟨s, hs, hopaque, hname⟩
      have hkept := h r hr hkeep p hp s hs hname
      exact ⟨s, List.mem_filter.2 ⟨hs, hkept⟩, hopaque, hname⟩
  have hrefers : r.refersTo (opaqueNames (records.filter (keep ·.name))) =
      r.refersTo (opaqueNames records) := by
    unfold RecordType.refersTo
    rw [Bool.eq_iff_iff, List.any_eq_true, List.any_eq_true]
    constructor
    · rintro ⟨p, hp, hany⟩
      exact ⟨p, hp, hcontains p hp ▸ hany⟩
    · rintro ⟨p, hp, hany⟩
      exact ⟨p, hp, (hcontains p hp).symm ▸ hany⟩
  unfold RecordType.spoiledBy
  rw [hrefers]

/-- One step of the propagation can be taken before or after the others are left out. -/
theorem filter_spoiled (h : RecordsClosed keep records) :
    (records.map (RecordType.spoiledBy (opaqueNames records))).filter (keep ·.name) =
      (records.filter (keep ·.name)).map
        (RecordType.spoiledBy (opaqueNames (records.filter (keep ·.name)))) := by
  have hnames : ((fun r : RecordType => keep r.name) ∘
      RecordType.spoiledBy (opaqueNames records)) = fun r => keep r.name := by
    funext r
    simp
  rw [List.filter_map, hnames]
  refine List.map_congr_left fun r hr => ?_
  exact (h.spoiledBy_eq (List.mem_filter.1 hr).1 (List.mem_filter.1 hr).2).symm

end RecordsClosed

/-- **Propagation among the kept records gives what it gives among all.** -/
theorem filter_propagateEquatable (h : RecordsClosed keep records) :
    (propagateEquatable records).filter (keep ·.name) =
      propagateEquatable (records.filter (keep ·.name)) := by
  -- The induction is on the steps of the propagation among all records.
  induction hn : (equatables records).length using Nat.strongRecOn generalizing records with
  | ind n ih =>
    subst hn
    have hstep := h.filter_spoiled
    by_cases hfix : records.map (RecordType.spoiledBy (opaqueNames records)) = records
    · rw [hfix] at hstep
      rw [propagateEquatable, dif_pos hfix, propagateEquatable, dif_pos hstep.symm]
    · have hrest := ih _ (length_equatables_map_lt hfix) (h.spoiled (opaqueNames records)) rfl
      rw [propagateEquatable_spoiled, hstep, propagateEquatable_spoiled] at hrest
      exact hrest

end ApiModels
