import ApiModels.Proofs.Change.Exact

/-!
# Changes over several releases

What a release keeps of the one before it, and that of an earlier one, it keeps of the earlier one
too (`DeclarationMap.IsKeptIn.trans`). So a bound on the severity of two steps is a bound on the
severity of both together (`severity_le_trans`), and a bound on all steps of a chain of releases is
one on the way from the first release to the last (`severity_le_of_isChain`). `severity_composes`
says what this means for each severity.
-/

namespace ApiModels

/-! ### What is kept over two releases -/

section Kept

variable {mark : String}

theorem Declaration.IsKeptIn.trans {d e f : Declaration} (hde : d.IsKeptIn mark e)
    (hef : e.IsKeptIn mark f) : d.IsKeptIn mark f where
  kind := hef.kind.trans hde.kind
  properties name type htype := hef.properties name type (hde.properties name type htype)
  cases identifier hcase := hef.cases identifier (hde.cases identifier hcase)

theorem DeclarationMap.IsKeptIn.refl (m : DeclarationMap) : m.IsKeptIn mark m :=
  fun _ d hd => ⟨d, hd, rfl, fun _ _ htype => htype, fun _ hcase => hcase⟩

theorem DeclarationMap.IsKeptIn.trans {a b c : DeclarationMap} (hab : a.IsKeptIn mark b)
    (hbc : b.IsKeptIn mark c) : a.IsKeptIn mark c := by
  intro name d hd
  obtain ⟨e, he, hde⟩ := hab name d hd
  obtain ⟨f, hf, hef⟩ := hbc name e he
  exact ⟨f, hf, hde.trans hef⟩

end Kept

/-! ### Bounds on the severity -/

namespace Severity

variable {a b : Severity}

theorem le_major (a : Severity) : a ≤ .major := by
  cases a <;> decide

theorem le_minor_iff : a ≤ .minor ↔ a ≠ .major := by
  cases a <;> decide

theorem le_patch_iff : a ≤ .patch ↔ a = .patch := by
  cases a <;> decide

theorem le_max_left (a b : Severity) : a ≤ max a b := by
  cases a <;> cases b <;> decide

theorem le_max_right (a b : Severity) : b ≤ max a b := by
  cases a <;> cases b <;> decide

end Severity

/-- A diff in which nothing is listed. -/
def Diff.empty : Diff := ⟨[], [], [], [], [], .patch⟩

section Steps

variable {profile : RenderProfile} {a b c old new : DeclarationMap} {bound : Severity}

theorem severity_le_minor_iff : (diff profile old new).severity ≤ .minor ↔
    old.IsKeptIn profile.optionalMark new := by
  rw [Severity.le_minor_iff, ne_eq, (severity_diff profile old new).major, not_not]

theorem severity_le_patch_iff : (diff profile old new).severity ≤ .patch ↔
    old.IsKeptIn profile.optionalMark new ∧ new.IsKeptIn profile.optionalMark old := by
  rw [Severity.le_patch_iff, (severity_diff profile old new).patch]

theorem diff_eq_empty (h : (diff profile old new).severity = .patch) :
    diff profile old new = .empty := by
  obtain ⟨⟨hremovedTypes, hkinds, hremovedMembers⟩, haddedTypes, -, haddedMembers⟩ :=
    classify_eq_patch_iff.1 h
  unfold diff at h ⊢
  simp only [hremovedTypes, hkinds, hremovedMembers, haddedTypes, haddedMembers]
  rfl

theorem severity_diff_self (profile : RenderProfile) (a : DeclarationMap) :
    (diff profile a a).severity = .patch :=
  (severity_diff profile a a).patch.2 ⟨.refl a, .refl a⟩

/-- **A bound on two steps is a bound on both together.** -/
theorem severity_le_trans (hab : (diff profile a b).severity ≤ bound)
    (hbc : (diff profile b c).severity ≤ bound) : (diff profile a c).severity ≤ bound := by
  cases bound with
  | patch =>
    -- A patch keeps the declarations both ways, so the second way goes back over the middle.
    rw [severity_le_patch_iff] at hab hbc ⊢
    exact ⟨hab.1.trans hbc.1, hbc.2.trans hab.2⟩
  | minor =>
    rw [severity_le_minor_iff] at hab hbc ⊢
    exact hab.trans hbc
  | major => exact Severity.le_major _

/-- A bound on all steps of a chain is a bound on the way from its first release to its last. -/
theorem severity_le_of_isChain {releases : List DeclarationMap}
    (h : (a :: releases).IsChain fun old new => (diff profile old new).severity ≤ bound) :
    (diff profile a (releases.getLastD a)).severity ≤ bound := by
  induction releases generalizing a with
  | nil =>
    rw [List.getLastD_nil, severity_diff_self]
    cases bound <;> decide
  | cons b releases ih =>
    obtain ⟨hstep, hrest⟩ := List.isChain_cons_cons.1 h
    rw [List.getLastD_cons]
    exact severity_le_trans hstep (ih hrest)

end Steps

/-- **Severity composes over releases.** The severity of two steps together is at most the greater
one of theirs. So the way from the first release of a chain to the last is not major if no step is,
and nothing is listed on it if every step is a patch. -/
theorem severity_composes (profile : RenderProfile) :
    (∀ a b c : DeclarationMap, (diff profile a c).severity ≤
      max (diff profile a b).severity (diff profile b c).severity) ∧
    ∀ (first : DeclarationMap) (releases : List DeclarationMap),
      ((first :: releases).IsChain (fun old new => (diff profile old new).severity ≠ .major) →
        (diff profile first (releases.getLastD first)).severity ≠ .major) ∧
      ((first :: releases).IsChain (fun old new => (diff profile old new).severity = .patch) →
        diff profile first (releases.getLastD first) = .empty) := by
  refine ⟨fun a b c => ?_, fun first releases => ⟨fun h => ?_, fun h => ?_⟩⟩
  · exact severity_le_trans (Severity.le_max_left _ _) (Severity.le_max_right _ _)
  · simp only [← Severity.le_minor_iff] at h ⊢
    exact severity_le_of_isChain h
  · simp only [← Severity.le_patch_iff] at h
    exact diff_eq_empty (Severity.le_patch_iff.1 (severity_le_of_isChain h))

/-- A type is added, and then a property of it. -/
theorem severity_composes_pets :
    let pet (properties : List Property) : Declaration :=
      .record ⟨"Pet", none, none, properties, true⟩
    let age : Property := ⟨"age", "age", "Int", true, none⟩
    let first : DeclarationMap := .empty
    let second : DeclarationMap := ⟨[("Pet", pet [])], List.pairwise_singleton _ _⟩
    let third : DeclarationMap := ⟨[("Pet", pet [age])], List.pairwise_singleton _ _⟩
    [first, second, third].IsChain (fun old new => (diff .default old new).severity ≠ .major) ∧
      (diff .default first third).severity ≠ .major ∧
      [third, third].IsChain (fun old new => (diff .default old new).severity = .patch) ∧
      diff .default third third = .empty := by
  intro pet age first second third
  have hminor : [first, second, third].IsChain
      (fun old new => (diff .default old new).severity ≠ .major) := by decide +kernel
  have hpatch : [third, third].IsChain
      (fun old new => (diff .default old new).severity = .patch) := by decide +kernel
  exact ⟨hminor, ((severity_composes .default).2 first [second, third]).1 hminor, hpatch,
    ((severity_composes .default).2 third [third]).2 hpatch⟩

end ApiModels
