import ApiModels.Proofs.Change.Exact

/-!
# Part of the declarations

If all declarations of one set are in another one, unchanged, then the diff between the two lists
nothing but types (`onlyRemovesTypes_diff`, `onlyAddsTypes_diff`). What is left of a list of
declarations with distinct names is such a part of it (`isPartOf_filter`).
-/

namespace ApiModels

variable {whole part : DeclarationMap}

/-- The declarations of the part are in the whole, unchanged. -/
def DeclarationMap.IsPartOf (part whole : DeclarationMap) : Prop :=
  ∀ name d, part.get? name = some d → whole.get? name = some d

namespace Diff

/-- Nothing but removed types is listed. -/
structure OnlyRemovesTypes (d : Diff) : Prop where
  addedTypes : d.addedTypes = []
  changedKinds : d.changedKinds = []
  addedMembers : d.addedMembers = []
  removedMembers : d.removedMembers = []

/-- Nothing but added types is listed. -/
structure OnlyAddsTypes (d : Diff) : Prop where
  removedTypes : d.removedTypes = []
  changedKinds : d.changedKinds = []
  addedMembers : d.addedMembers = []
  removedMembers : d.removedMembers = []

end Diff

theorem isKeptIn_of_isPartOf (h : part.IsPartOf whole) (mark : String) :
    part.IsKeptIn mark whole := by
  intro name d hd
  exact ⟨d, h name d hd, rfl, fun _ _ htype => htype, fun _ hcase => hcase⟩

theorem not_lost_self {mark : String} {d : Declaration} {m : Member} : ¬ Lost mark d d m :=
  fun h => h.not_swap h

theorem eq_of_mem_commonDeclarations (h : part.IsPartOf whole) {name : String}
    {d e : Declaration} (hmem : (name, d, e) ∈ commonDeclarations whole part) : d = e := by
  obtain ⟨hd, he⟩ := mem_commonDeclarations.1 hmem
  exact Option.some.inj (hd.symm.trans (h name e he))

/-- **Leaving declarations out only removes types.** -/
theorem onlyRemovesTypes_diff (profile : RenderProfile) (h : part.IsPartOf whole) :
    (diff profile whole part).OnlyRemovesTypes := by
  obtain ⟨htypes, hkinds, hadded⟩ :=
    (isKeptIn_iff_added profile whole part).1 (isKeptIn_of_isPartOf h _)
  refine ⟨htypes, hkinds, hadded, removedMembers_eq_nil_iff.2 ?_⟩
  intro name d e hmem m
  rw [eq_of_mem_commonDeclarations h hmem]
  exact not_lost_self

/-- **Putting declarations in only adds types.** -/
theorem onlyAddsTypes_diff (profile : RenderProfile) (h : part.IsPartOf whole) :
    (diff profile part whole).OnlyAddsTypes := by
  obtain ⟨htypes, hkinds, hremoved⟩ :=
    (isKeptIn_iff_removed profile part whole).1 (isKeptIn_of_isPartOf h _)
  refine ⟨htypes, hkinds, addedMembers_eq_nil_iff.2 ?_, hremoved⟩
  intro name d e hmem m
  have hswap : (name, e, d) ∈ commonDeclarations whole part :=
    mem_commonDeclarations.2 (mem_commonDeclarations.1 hmem).symm
  rw [eq_of_mem_commonDeclarations h hswap]
  exact not_lost_self

/-! ### Lists of declarations -/

theorem get?_ofList {declarations : List Declaration} (h : (declarations.map (·.name)).Nodup)
    {name : String} {d : Declaration} :
    (DeclarationMap.ofList declarations).get? name = some d ↔ d ∈ declarations ∧ d.name = name := by
  have hkeys : ((declarations.map fun d => (d.name, d)).map (·.1)).Nodup := by
    rw [List.map_map]
    exact h
  unfold DeclarationMap.ofList Keyed.ofList Keyed.get?
  rw [lookup_keyedFirst, lookup_eq_some_iff_mem hkeys, List.mem_map]
  constructor
  · rintro ⟨e, he, heq⟩
    cases heq
    exact ⟨he, rfl⟩
  · rintro ⟨hd, rfl⟩
    exact ⟨d, hd, rfl⟩

theorem isPartOf_filter {declarations : List Declaration}
    (h : (declarations.map (·.name)).Nodup) (keep : Declaration → Bool) :
    (DeclarationMap.ofList (declarations.filter keep)).IsPartOf (.ofList declarations) := by
  have hfiltered : ((declarations.filter keep).map (·.name)).Nodup :=
    h.sublist (List.filter_sublist.map _)
  intro name d hd
  obtain ⟨hmem, hname⟩ := (get?_ofList hfiltered).1 hd
  exact (get?_ofList h).2 ⟨(List.mem_filter.1 hmem).1, hname⟩

end ApiModels
