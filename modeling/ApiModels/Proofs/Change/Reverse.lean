import ApiModels.Proofs.Change.Exact

/-!
# Changes in the other direction

Two sets of declarations can be compared either way round. What one comparison adds, the other
removes, in the same order and entry by entry, and both tell the same changes of kinds
(`addedMembers_swap`, `changedKinds_swap`). The severity is not symmetric: it is told anew from the
exchanged lists, and something that was only added is a loss in the other direction. `diff_swap`
puts this together.
-/

namespace ApiModels

attribute [ext] Diff

/-- The changes in the other direction. -/
def Diff.reversed (d : Diff) : Diff where
  addedTypes := d.removedTypes
  removedTypes := d.addedTypes
  changedKinds := d.changedKinds
  addedMembers := d.removedMembers
  removedMembers := d.addedMembers
  severity := classify d.removedTypes d.addedTypes d.changedKinds d.removedMembers d.addedMembers

section Swap

variable {profile : RenderProfile} {old new : DeclarationMap}

/-- The members that one comparison adds are those that the other removes, in the same order. -/
theorem addedMembers_swap (profile : RenderProfile) (hold : old.IsKeyedByName)
    (hnew : new.IsKeyedByName) :
    (diff profile new old).addedMembers = (diff profile old new).removedMembers := by
  rw [addedMembers_eq hnew, removedMembers_eq hold]

theorem changedKinds_swap (profile : RenderProfile) (old new : DeclarationMap) :
    (diff profile new old).changedKinds = (diff profile old new).changedKinds := by
  have hkind : ∀ common : String × Declaration × Declaration,
      (common.2.2.kind != common.2.1.kind) = (common.2.1.kind != common.2.2.kind) :=
    fun common => bne_comm
  simp only [diff, commonDeclarations_swap old new, List.filter_map, List.map_map,
    Function.comp_def, hkind]

theorem severity_swap_eq_patch_iff :
    (diff profile new old).severity = .patch ↔ (diff profile old new).severity = .patch := by
  rw [(severity_diff profile new old).patch, (severity_diff profile old new).patch, and_comm]

/-- What is only added is lost in the other direction. -/
theorem severity_swap_of_minor (h : (diff profile old new).severity = .minor) :
    (diff profile new old).severity = .major := by
  obtain ⟨-, hlost⟩ := (severity_diff profile old new).minor.1 h
  exact (severity_diff profile new old).major.2 hlost

/-- **Comparing the other way round exchanges what is added and what is removed**, entry by entry.
So a patch stays a patch, and a minor change becomes a major one. -/
theorem diff_swap (hold : old.IsKeyedByName) (hnew : new.IsKeyedByName) :
    diff profile new old = (diff profile old new).reversed ∧
      ((diff profile new old).severity = .patch ↔ (diff profile old new).severity = .patch) ∧
      ((diff profile old new).severity = .minor → (diff profile new old).severity = .major) := by
  have hadded := addedMembers_swap profile hold hnew
  have hremoved := addedMembers_swap profile hnew hold
  have hkinds := changedKinds_swap profile old new
  refine ⟨Diff.ext rfl rfl hkinds hadded hremoved.symm ?_, severity_swap_eq_patch_iff,
    severity_swap_of_minor⟩
  show classify _ _ (diff profile new old).changedKinds (diff profile new old).addedMembers
    (diff profile new old).removedMembers = _
  rw [hkinds, hadded, ← hremoved]
  rfl

/-- A type and a property that are new are removed again in the other direction. -/
theorem diff_swap_added :
    let age : Property := ⟨"age", "age", "Int", false, none⟩
    let name : Property := ⟨"name", "name", "String", true, none⟩
    let pet (properties : List Property) : Declaration :=
      .record ⟨"Pet", none, none, properties, true⟩
    let old : DeclarationMap := .ofList [pet [age]]
    let new : DeclarationMap := .ofList [pet [age, name], .enum ⟨"Kind", none, none, []⟩]
    old.IsKeyedByName ∧ new.IsKeyedByName ∧ (diff .default old new).severity = .minor ∧
      diff .default new old = ⟨[], ["Kind"], [], [], ["Pet.name"], .major⟩ := by
  intro age name pet old new
  have hold : old.IsKeyedByName := by decide +kernel
  have hnew : new.IsKeyedByName := by decide +kernel
  have hminor : (diff .default old new).severity = .minor := by decide +kernel
  have hlists : (diff .default old new).reversed =
      ⟨[], ["Kind"], [], [], ["Pet.name"], .major⟩ := by decide +kernel
  exact ⟨hold, hnew, hminor, (diff_swap hold hnew).1.trans hlists⟩

end Swap

end ApiModels
