import ApiModels.Proofs.Change.Members

/-!
# What a diff lists

The members that a diff lists are the lost members of the types that both sets of declarations
share, each under the name of its type (`addedMembers_eq`, `removedMembers_eq`). Types are listed by
their names and kinds (`listsTypes_diff`), members by the names and the written types of properties
and by the identifiers of cases (`listsMembers_diff`), and the severity says whether what one set
has is kept in the other (`severity_diff`). `diff_exact` puts the three together.
-/

namespace ApiModels

/-! ### What is kept -/

/-- The identifiers of the cases; a record has none. -/
def Declaration.identifiers : Declaration → List String
  | .record _ => []
  | .enum e => e.identifiers

/-- The names of the properties; an enumeration has none. -/
def Declaration.propertyNames : Declaration → List String
  | .record r => r.propertyNames
  | .enum _ => []

/-- The type of the first property with a name; an enumeration has none. -/
def Declaration.propertyType? (mark : String) (d : Declaration) (name : String) : Option String :=
  d.record?.bind fun r => r.propertyType? mark name

/-- Another declaration has the kind, the properties with their types and the cases of this one. -/
structure Declaration.IsKeptIn (mark : String) (d e : Declaration) : Prop where
  kind : e.kind = d.kind
  properties : ∀ name type, d.propertyType? mark name = some type →
    e.propertyType? mark name = some type
  cases : ∀ identifier ∈ d.identifiers, identifier ∈ e.identifiers

namespace DeclarationMap

/-- Each declaration is kept in the one with its name. -/
def IsKeptIn (mark : String) (old new : DeclarationMap) : Prop :=
  ∀ name before, old.get? name = some before →
    ∃ after, new.get? name = some after ∧ before.IsKeptIn mark after

/-- The keys are the names of the declarations. -/
def IsKeyedByName (m : DeclarationMap) : Prop := ∀ entry ∈ m.entries, entry.2.name = entry.1

/-- No separator of entries occurs in the names of types and properties. -/
def HasPlainNames (m : DeclarationMap) : Prop :=
  ∀ entry ∈ m.entries, IsPlain entry.1 ∧ ∀ name ∈ entry.2.propertyNames, IsPlain name

instance (m : DeclarationMap) : Decidable m.IsKeyedByName :=
  inferInstanceAs (Decidable (∀ entry ∈ m.entries, entry.2.name = entry.1))

instance (m : DeclarationMap) : Decidable m.HasPlainNames :=
  inferInstanceAs (Decidable (∀ entry ∈ m.entries,
    IsPlain entry.1 ∧ ∀ name ∈ entry.2.propertyNames, IsPlain name))

end DeclarationMap

theorem Declaration.isKeptIn_iff_not_lost {mark : String} {d e : Declaration}
    (hkind : d.kind = e.kind) : d.IsKeptIn mark e ↔ ∀ m, ¬ Lost mark d e m := by
  constructor
  · rintro ⟨-, hproperties, hcases⟩ m (⟨hname, hnot⟩ | ⟨htype, hother, hne⟩ | ⟨hcase, hnot⟩)
    · cases htype : RecordType.propertyType? mark _ _ with
      | none => exact propertyType?_eq_none_iff.1 htype hname
      | some type =>
        have hkept := mem_propertyNames_of_propertyType? (hproperties _ _ htype)
        exact hnot hkept
    · have hkept := hproperties _ _ htype
      exact hne (Option.some.inj (hkept.symm.trans hother))
    · exact hnot (hcases _ hcase)
  · intro h
    cases d with
    | record r =>
      cases e with
      | record s =>
        refine ⟨rfl, fun name type htype => ?_, fun _ hcase => nomatch hcase⟩
        cases hother : s.propertyType? mark name with
        | none =>
          have hname := mem_propertyNames_of_propertyType? htype
          exact absurd (Lost.property hname (propertyType?_eq_none_iff.1 hother)) (h _)
        | some other =>
          by_cases heq : type = other
          · exact heq ▸ hother
          · exact absurd (Lost.typed htype hother heq) (h _)
      | enum f => cases hkind
    | enum _ =>
      cases e with
      | record s => cases hkind
      | enum _ =>
        refine ⟨rfl, fun name type htype => (nomatch htype), fun identifier hcase => ?_⟩
        by_contra hnot
        exact h _ (Lost.case hcase hnot)

/-! ### Types that two sets share -/

section Common

variable {old new : DeclarationMap} {name : String} {before after : Declaration}

theorem mem_commonDeclarations : (name, before, after) ∈ commonDeclarations old new ↔
    old.get? name = some before ∧ new.get? name = some after := by
  unfold commonDeclarations
  rw [List.mem_filterMap]
  constructor
  · rintro ⟨⟨key, d⟩, hmem, hcommon⟩
    obtain ⟨e, hnew, heq⟩ := Option.map_eq_some_iff.1 hcommon
    cases heq
    exact ⟨(lookup_eq_some_iff_mem old.ascending.nodup_keys).2 hmem, hnew⟩
  · rintro ⟨hold, hnew⟩
    refine ⟨(name, before), Json.mem_of_lookup hold, ?_⟩
    simp [hnew]

theorem ascending_commonDeclarations (old new : DeclarationMap) :
    Ascending (commonDeclarations old new) := by
  unfold commonDeclarations Ascending
  refine List.Pairwise.filterMap _ ?_ old.ascending
  intro entry entry' hlt common hcommon common' hcommon'
  obtain ⟨_, -, rfl⟩ := Option.map_eq_some_iff.1 hcommon
  obtain ⟨_, -, rfl⟩ := Option.map_eq_some_iff.1 hcommon'
  exact hlt

theorem commonDeclarations_swap (old new : DeclarationMap) :
    commonDeclarations new old =
      (commonDeclarations old new).map fun (name, before, after) => (name, after, before) := by
  have hswapped : Ascending
      ((commonDeclarations old new).map fun (name, before, after) => (name, after, before)) :=
    (ascending_commonDeclarations old new).map _ fun _ _ hlt => hlt
  refine (ascending_commonDeclarations new old).eq_of_mem_iff hswapped ?_
  rintro ⟨name, after, before⟩
  rw [mem_commonDeclarations, List.mem_map]
  constructor
  · rintro ⟨hnew, hold⟩
    exact ⟨(name, before, after), mem_commonDeclarations.2 ⟨hold, hnew⟩, rfl⟩
  · rintro ⟨⟨name, before, after⟩, hmem, heq⟩
    cases heq
    exact (mem_commonDeclarations.1 hmem).symm

/-! ### Lists of members -/

/-- The entries of the members that are lost in the types that two sets share. -/
def lostEntries (mark : String) (old new : DeclarationMap) : List String :=
  (commonDeclarations old new).flatMap fun (name, before, after) =>
    (lostMembers mark before after).map (·.entry name)

variable {profile : RenderProfile}

theorem removedMembers_eq_flatMap (old new : DeclarationMap) :
    (diff profile old new).removedMembers =
      (commonDeclarations old new).flatMap fun (_, before, after) =>
        (lostMembers profile.optionalMark before after).map (·.entry before.name) := by
  simp only [diff, MemberDiff.concat, List.flatMap_map, declarationDiff_eq]

theorem addedMembers_eq_flatMap (old new : DeclarationMap) :
    (diff profile old new).addedMembers =
      (commonDeclarations old new).flatMap fun (_, before, after) =>
        (lostMembers profile.optionalMark after before).map (·.entry before.name) := by
  simp only [diff, MemberDiff.concat, List.flatMap_map, declarationDiff_eq]

theorem name_of_mem_commonDeclarations (h : old.IsKeyedByName)
    (hmem : (name, before, after) ∈ commonDeclarations old new) : before.name = name :=
  h (name, before) (Json.mem_of_lookup (mem_commonDeclarations.1 hmem).1)

theorem removedMembers_eq (h : old.IsKeyedByName) :
    (diff profile old new).removedMembers = lostEntries profile.optionalMark old new := by
  rw [removedMembers_eq_flatMap]
  refine List.flatMap_congr fun ⟨name, before, after⟩ hmem => ?_
  simp only [name_of_mem_commonDeclarations h hmem]

theorem addedMembers_eq (h : old.IsKeyedByName) :
    (diff profile old new).addedMembers = lostEntries profile.optionalMark new old := by
  rw [addedMembers_eq_flatMap, lostEntries, commonDeclarations_swap old new, List.flatMap_map]
  refine List.flatMap_congr fun ⟨name, before, after⟩ hmem => ?_
  simp only [name_of_mem_commonDeclarations h hmem]

variable {mark : String} {entry : String}

theorem mem_lostEntries : entry ∈ lostEntries mark old new ↔
    ∃ name before after m, old.get? name = some before ∧ new.get? name = some after ∧
      Lost mark before after m ∧ entry = m.entry name := by
  unfold lostEntries
  rw [List.mem_flatMap]
  constructor
  · rintro ⟨⟨name, before, after⟩, hcommon, hentry⟩
    obtain ⟨m, hm, rfl⟩ := List.mem_map.1 hentry
    obtain ⟨hold, hnew⟩ := mem_commonDeclarations.1 hcommon
    exact ⟨name, before, after, m, hold, hnew, mem_lostMembers.1 hm, rfl⟩
  · rintro ⟨name, before, after, m, hold, hnew, hm, rfl⟩
    exact ⟨(name, before, after), mem_commonDeclarations.2 ⟨hold, hnew⟩,
      List.mem_map_of_mem (mem_lostMembers.2 hm)⟩

/-! ### Entries of plain names -/

theorem DeclarationMap.HasPlainNames.type (h : old.HasPlainNames)
    (hold : old.get? name = some before) : IsPlain name :=
  (h (name, before) (Json.mem_of_lookup hold)).1

theorem DeclarationMap.HasPlainNames.lost (h : old.HasPlainNames)
    (hold : old.get? name = some before) {m : Member} (hm : Lost mark before after m) :
    m.IsPlain := by
  have hplain := (h (name, before) (Json.mem_of_lookup hold)).2
  cases hm with
  | property hname _ => exact hplain _ hname
  | typed htype _ _ => exact hplain _ (mem_propertyNames_of_propertyType? htype)
  | case _ _ => trivial

theorem entry_mem_lostEntries (h : old.HasPlainNames) (hold : old.get? name = some before)
    (hnew : new.get? name = some after) {m : Member} (hm : m.IsPlain) :
    m.entry name ∈ lostEntries mark old new ↔ Lost mark before after m := by
  rw [mem_lostEntries]
  constructor
  · rintro ⟨name', before', after', m', hold', hnew', hlost, hentry⟩
    obtain ⟨hname, hmember⟩ := Member.entry_inj (h.type hold) (h.type hold') hm
      (h.lost hold' hlost) hentry
    subst hname hmember
    cases hold.symm.trans hold'
    cases hnew.symm.trans hnew'
    exact hlost
  · intro hlost
    exact ⟨name, before, after, m, hold, hnew, hlost, rfl⟩

theorem nodup_lostEntries (h : old.HasPlainNames) : (lostEntries mark old new).Nodup := by
  refine List.nodup_flatMap.2 ⟨?_, ?_⟩
  · rintro ⟨name, before, after⟩ hmem
    obtain ⟨hold, _⟩ := mem_commonDeclarations.1 hmem
    refine List.Nodup.map_on (fun m hm m' hm' heq => ?_) nodup_lostMembers
    exact (Member.entry_inj (h.type hold) (h.type hold) (h.lost hold (mem_lostMembers.1 hm))
      (h.lost hold (mem_lostMembers.1 hm')) heq).2
  · have hkeys := ascending_commonDeclarations old new
    refine List.Pairwise.imp_of_mem ?_ hkeys
    rintro ⟨name, before, after⟩ ⟨name', before', after'⟩ hmem hmem' hlt entry hentry hentry'
    obtain ⟨m, hm, rfl⟩ := List.mem_map.1 hentry
    obtain ⟨m', hm', heq⟩ := List.mem_map.1 hentry'
    obtain ⟨hold, _⟩ := mem_commonDeclarations.1 hmem
    obtain ⟨hold', _⟩ := mem_commonDeclarations.1 hmem'
    obtain ⟨hname, _⟩ := Member.entry_inj (h.type hold') (h.type hold)
      (h.lost hold' (mem_lostMembers.1 hm')) (h.lost hold (mem_lostMembers.1 hm)) heq
    exact String.lt_irrefl name (hname ▸ hlt)

/-- No entry is listed in both directions. -/
theorem not_mem_lostEntries_swap (hold : old.HasPlainNames) (hnew : new.HasPlainNames)
    (h : entry ∈ lostEntries mark old new) : entry ∉ lostEntries mark new old := by
  obtain ⟨name, before, after, m, hbefore, hafter, hlost, rfl⟩ := mem_lostEntries.1 h
  rw [entry_mem_lostEntries hnew hafter hbefore (hold.lost hbefore hlost)]
  exact hlost.not_swap

end Common

/-! ### The lists of a diff -/

namespace Diff

/-- The lists of types: names that only one of the sets has, and common names of different kinds. -/
structure ListsTypes (old new : DeclarationMap) (d : Diff) : Prop where
  added : ∀ name, name ∈ d.addedTypes ↔ name ∈ new.keys ∧ name ∉ old.keys
  removed : ∀ name, name ∈ d.removedTypes ↔ name ∈ old.keys ∧ name ∉ new.keys
  changed : ∀ name, name ∈ d.changedKinds ↔ ∃ before after, old.get? name = some before ∧
    new.get? name = some after ∧ before.kind ≠ after.kind
  addedSorted : d.addedTypes.Pairwise (· < ·)
  removedSorted : d.removedTypes.Pairwise (· < ·)
  changedSorted : d.changedKinds.Pairwise (· < ·)

/-- The lists of members: of the properties and cases of common types, those that one side lacks
and those whose types differ, and nothing else. -/
structure ListsMembers (mark : String) (old new : DeclarationMap) (d : Diff) : Prop where
  propertyAdded : ∀ type r s, old.get? type = some (.record r) → new.get? type = some (.record s) →
    ∀ name, IsPlain name → (memberEntry type name ∈ d.addedMembers ↔
      name ∈ s.propertyNames ∧ name ∉ r.propertyNames)
  propertyRemoved : ∀ type r s, old.get? type = some (.record r) →
    new.get? type = some (.record s) → ∀ name, IsPlain name →
    (memberEntry type name ∈ d.removedMembers ↔ name ∈ r.propertyNames ∧ name ∉ s.propertyNames)
  typeChanged : ∀ type r s, old.get? type = some (.record r) → new.get? type = some (.record s) →
    ∀ name, IsPlain name → ∀ before after,
    (typedEntry type name before ∈ d.removedMembers ∧ typedEntry type name after ∈ d.addedMembers ↔
      r.propertyType? mark name = some before ∧ s.propertyType? mark name = some after ∧
        before ≠ after)
  caseAdded : ∀ type e f, old.get? type = some (.enum e) → new.get? type = some (.enum f) →
    ∀ identifier, caseEntry type identifier ∈ d.addedMembers ↔
      identifier ∈ f.identifiers ∧ identifier ∉ e.identifiers
  caseRemoved : ∀ type e f, old.get? type = some (.enum e) → new.get? type = some (.enum f) →
    ∀ identifier, caseEntry type identifier ∈ d.removedMembers ↔
      identifier ∈ e.identifiers ∧ identifier ∉ f.identifiers
  addedOnly : ∀ entry, entry ∈ d.addedMembers ↔ ∃ type before after m,
    old.get? type = some before ∧ new.get? type = some after ∧ Lost mark after before m ∧
      entry = m.entry type
  removedOnly : ∀ entry, entry ∈ d.removedMembers ↔ ∃ type before after m,
    old.get? type = some before ∧ new.get? type = some after ∧ Lost mark before after m ∧
      entry = m.entry type
  addedOnce : d.addedMembers.Nodup
  removedOnce : d.removedMembers.Nodup
  disjoint : ∀ entry ∈ d.addedMembers, entry ∉ d.removedMembers

/-- The severity: major if something old is lost, minor if only something is new. -/
structure HasSeverity (mark : String) (old new : DeclarationMap) (d : Diff) : Prop where
  major : d.severity = .major ↔ ¬ old.IsKeptIn mark new
  minor : d.severity = .minor ↔ old.IsKeptIn mark new ∧ ¬ new.IsKeptIn mark old
  patch : d.severity = .patch ↔ old.IsKeptIn mark new ∧ new.IsKeptIn mark old

end Diff

section Lists

variable {old new : DeclarationMap} {profile : RenderProfile}

theorem mem_keys_iff {m : DeclarationMap} {name : String} :
    name ∈ m.keys ↔ ∃ d, m.get? name = some d := by
  rw [← Option.isSome_iff_exists]
  exact isSome_lookup_iff_mem_keys.symm

theorem listsTypes_diff (profile : RenderProfile) (old new : DeclarationMap) :
    (diff profile old new).ListsTypes old new := by
  have hcontains : ∀ (m : DeclarationMap) name, m.contains name = true ↔ name ∈ m.keys :=
    fun m name => isSome_lookup_iff_mem_keys
  have honly : ∀ (m n : DeclarationMap) name, name ∈ m.keys.filter (!n.contains ·) ↔
      name ∈ m.keys ∧ name ∉ n.keys := by
    intro m n name
    rw [List.mem_filter, Bool.not_eq_true', ← Bool.not_eq_true, hcontains]
  refine ⟨honly new old, honly old new, fun name => ?_, new.pairwise_keys.filter _,
    old.pairwise_keys.filter _, ?_⟩
  · simp only [diff, List.mem_map, List.mem_filter, bne_iff_ne]
    constructor
    · rintro ⟨⟨name, before, after⟩, ⟨hmem, hkind⟩, rfl⟩
      obtain ⟨hold, hnew⟩ := mem_commonDeclarations.1 hmem
      exact ⟨before, after, hold, hnew, hkind⟩
    · rintro ⟨before, after, hold, hnew, hkind⟩
      exact ⟨(name, before, after), ⟨mem_commonDeclarations.2 ⟨hold, hnew⟩, hkind⟩, rfl⟩
  · exact ascending_iff_keys.1 ((ascending_commonDeclarations old new).filter _)

theorem listsMembers_diff (hkeyed : old.IsKeyedByName) (hold : old.HasPlainNames)
    (hnew : new.HasPlainNames) :
    (diff profile old new).ListsMembers profile.optionalMark old new := by
  have hadded : (diff profile old new).addedMembers = _ := addedMembers_eq hkeyed
  have hremoved : (diff profile old new).removedMembers = _ := removedMembers_eq hkeyed
  -- The added members are those that the old declarations lack, so `new` and `old` change places.
  constructor
  case propertyAdded =>
    intro type r s hr hs name hname
    rw [hadded, ← lost_property_iff]
    exact entry_mem_lostEntries (m := .property name) hnew hs hr hname
  case propertyRemoved =>
    intro type r s hr hs name hname
    rw [hremoved, ← lost_property_iff]
    exact entry_mem_lostEntries (m := .property name) hold hr hs hname
  case typeChanged =>
    intro type r s hr hs name hname before after
    have hbefore : typedEntry type name before ∈ lostEntries profile.optionalMark old new ↔ _ :=
      entry_mem_lostEntries (m := .typed name before) hold hr hs hname
    have hafter : typedEntry type name after ∈ lostEntries profile.optionalMark new old ↔ _ :=
      entry_mem_lostEntries (m := .typed name after) hnew hs hr hname
    rw [hadded, hremoved, hbefore, hafter, lost_typed_iff, lost_typed_iff]
    constructor
    · rintro ⟨⟨htype, other, hother, hne⟩, htype', -⟩
      cases hother.symm.trans htype'
      exact ⟨htype, htype', hne⟩
    · rintro ⟨htype, htype', hne⟩
      exact ⟨⟨htype, after, htype', hne⟩, htype', before, htype, hne.symm⟩
  case caseAdded =>
    intro type e f he hf identifier
    rw [hadded, ← lost_case_iff]
    exact entry_mem_lostEntries (m := .case identifier) hnew hf he trivial
  case caseRemoved =>
    intro type e f he hf identifier
    rw [hremoved, ← lost_case_iff]
    exact entry_mem_lostEntries (m := .case identifier) hold he hf trivial
  case addedOnly =>
    intro entry
    rw [hadded, mem_lostEntries]
    constructor
    · rintro ⟨type, after, before, m, hafter, hbefore, hlost⟩
      exact ⟨type, before, after, m, hbefore, hafter, hlost⟩
    · rintro ⟨type, before, after, m, hbefore, hafter, hlost⟩
      exact ⟨type, after, before, m, hafter, hbefore, hlost⟩
  case removedOnly =>
    intro entry
    rw [hremoved, mem_lostEntries]
  case addedOnce => exact hadded ▸ nodup_lostEntries hnew
  case removedOnce => exact hremoved ▸ nodup_lostEntries hold
  case disjoint =>
    intro entry hentry
    rw [hadded] at hentry
    rw [hremoved]
    exact not_mem_lostEntries_swap hnew hold hentry

theorem isKeptIn_iff {mark : String} : old.IsKeptIn mark new ↔
    (∀ name ∈ old.keys, name ∈ new.keys) ∧
      ∀ name before after, (name, before, after) ∈ commonDeclarations old new →
        before.kind = after.kind ∧ ∀ m, ¬ Lost mark before after m := by
  constructor
  · intro h
    refine ⟨fun name hname => ?_, fun name before after hmem => ?_⟩
    · obtain ⟨before, hbefore⟩ := mem_keys_iff.1 hname
      obtain ⟨after, hafter, -⟩ := h name before hbefore
      exact mem_keys_iff.2 ⟨after, hafter⟩
    · obtain ⟨hbefore, hafter⟩ := mem_commonDeclarations.1 hmem
      obtain ⟨after', hafter', hkept⟩ := h name before hbefore
      cases hafter.symm.trans hafter'
      exact ⟨hkept.kind.symm, (Declaration.isKeptIn_iff_not_lost hkept.kind.symm).1 hkept⟩
  · rintro ⟨hkeys, hcommon⟩ name before hbefore
    obtain ⟨after, hafter⟩ := mem_keys_iff.1 (hkeys name (mem_keys_iff.2 ⟨before, hbefore⟩))
    obtain ⟨hkind, hlost⟩ := hcommon name before after (mem_commonDeclarations.2 ⟨hbefore, hafter⟩)
    exact ⟨after, hafter, (Declaration.isKeptIn_iff_not_lost hkind).2 hlost⟩

theorem removedMembers_eq_nil_iff : (diff profile old new).removedMembers = [] ↔
    ∀ name before after, (name, before, after) ∈ commonDeclarations old new →
      ∀ m, ¬ Lost profile.optionalMark before after m := by
  simp only [removedMembers_eq_flatMap, List.flatMap_eq_nil_iff, List.map_eq_nil_iff,
    lostMembers_eq_nil_iff, Prod.forall]

theorem addedMembers_eq_nil_iff : (diff profile old new).addedMembers = [] ↔
    ∀ name before after, (name, before, after) ∈ commonDeclarations old new →
      ∀ m, ¬ Lost profile.optionalMark after before m := by
  simp only [addedMembers_eq_flatMap, List.flatMap_eq_nil_iff, List.map_eq_nil_iff,
    lostMembers_eq_nil_iff, Prod.forall]

theorem changedKinds_eq_nil_iff : (diff profile old new).changedKinds = [] ↔
    ∀ name before after, (name, before, after) ∈ commonDeclarations old new →
      before.kind = after.kind := by
  simp [diff]

theorem isKeptIn_iff_removed (profile : RenderProfile) (old new : DeclarationMap) :
    old.IsKeptIn profile.optionalMark new ↔ (diff profile old new).removedTypes = [] ∧
      (diff profile old new).changedKinds = [] ∧ (diff profile old new).removedMembers = [] := by
  rw [isKeptIn_iff, removedMembers_eq_nil_iff, changedKinds_eq_nil_iff,
    List.eq_nil_iff_forall_not_mem]
  simp only [(listsTypes_diff profile old new).removed, not_and, not_not]
  refine and_congr_right fun _ => ⟨fun h => ⟨?_, ?_⟩, fun h => ?_⟩
  · exact fun name before after hmem => (h name before after hmem).1
  · exact fun name before after hmem => (h name before after hmem).2
  · exact fun name before after hmem => ⟨h.1 name before after hmem, h.2 name before after hmem⟩

theorem isKeptIn_iff_added (profile : RenderProfile) (old new : DeclarationMap) :
    new.IsKeptIn profile.optionalMark old ↔ (diff profile old new).addedTypes = [] ∧
      (diff profile old new).changedKinds = [] ∧ (diff profile old new).addedMembers = [] := by
  rw [isKeptIn_iff, addedMembers_eq_nil_iff, changedKinds_eq_nil_iff,
    List.eq_nil_iff_forall_not_mem]
  have hswap : ∀ name before after, (name, before, after) ∈ commonDeclarations new old ↔
      (name, after, before) ∈ commonDeclarations old new := by
    intro name before after
    rw [mem_commonDeclarations, mem_commonDeclarations, and_comm]
  simp only [(listsTypes_diff profile old new).added, not_and, not_not, hswap]
  refine and_congr_right fun _ => ⟨fun h => ⟨?_, ?_⟩, fun h => ?_⟩
  · exact fun name before after hmem => (h name after before hmem).1.symm
  · exact fun name before after hmem => (h name after before hmem).2
  · exact fun name after before hmem =>
      ⟨(h.1 name before after hmem).symm, h.2 name before after hmem⟩

section Classify

variable {addedTypes removedTypes changedKinds addedMembers removedMembers : List String}

theorem classify_eq_major_iff :
    classify addedTypes removedTypes changedKinds addedMembers removedMembers = .major ↔
      ¬ (removedTypes = [] ∧ changedKinds = [] ∧ removedMembers = []) := by
  simp only [classify, ← List.isEmpty_iff]
  cases removedTypes.isEmpty <;> cases changedKinds.isEmpty <;> cases removedMembers.isEmpty <;>
    cases addedTypes.isEmpty <;> cases addedMembers.isEmpty <;> decide

theorem classify_eq_minor_iff :
    classify addedTypes removedTypes changedKinds addedMembers removedMembers = .minor ↔
      (removedTypes = [] ∧ changedKinds = [] ∧ removedMembers = []) ∧
        ¬ (addedTypes = [] ∧ changedKinds = [] ∧ addedMembers = []) := by
  simp only [classify, ← List.isEmpty_iff]
  cases removedTypes.isEmpty <;> cases changedKinds.isEmpty <;> cases removedMembers.isEmpty <;>
    cases addedTypes.isEmpty <;> cases addedMembers.isEmpty <;> decide

theorem classify_eq_patch_iff :
    classify addedTypes removedTypes changedKinds addedMembers removedMembers = .patch ↔
      (removedTypes = [] ∧ changedKinds = [] ∧ removedMembers = []) ∧
        addedTypes = [] ∧ changedKinds = [] ∧ addedMembers = [] := by
  simp only [classify, ← List.isEmpty_iff]
  cases removedTypes.isEmpty <;> cases changedKinds.isEmpty <;> cases removedMembers.isEmpty <;>
    cases addedTypes.isEmpty <;> cases addedMembers.isEmpty <;> decide

end Classify

theorem severity_diff (profile : RenderProfile) (old new : DeclarationMap) :
    (diff profile old new).HasSeverity profile.optionalMark old new := by
  constructor
  · rw [isKeptIn_iff_removed]
    exact classify_eq_major_iff
  · rw [isKeptIn_iff_removed, isKeptIn_iff_added profile old new]
    exact classify_eq_minor_iff
  · rw [isKeptIn_iff_removed, isKeptIn_iff_added profile old new]
    exact classify_eq_patch_iff

/-- **The diff is exact.** Its lists say which types and, where no separator of entries occurs in
names, which members differ; under any names its severity says whether something is lost, or only
something new. -/
theorem diff_exact (profile : RenderProfile) (old new : DeclarationMap) :
    (diff profile old new).ListsTypes old new ∧
      (old.IsKeyedByName → old.HasPlainNames → new.HasPlainNames →
        (diff profile old new).ListsMembers profile.optionalMark old new) ∧
      (diff profile old new).HasSeverity profile.optionalMark old new :=
  ⟨listsTypes_diff profile old new, listsMembers_diff, severity_diff profile old new⟩

/-- A property that becomes optional changes its written type. -/
theorem diff_exact_optional :
    let pet (isOptional : Bool) : RecordType :=
      ⟨"Pet", none, none, [⟨"age", "age", "Int", isOptional, none⟩], true⟩
    let old : DeclarationMap := ⟨[("Pet", .record (pet false))], List.pairwise_singleton _ _⟩
    let new : DeclarationMap := ⟨[("Pet", .record (pet true))], List.pairwise_singleton _ _⟩
    old.IsKeyedByName ∧ old.HasPlainNames ∧ new.HasPlainNames ∧
      "Pet.age:Int" ∈ (diff .default old new).removedMembers ∧
      "Pet.age:Int?" ∈ (diff .default old new).addedMembers := by
  intro pet old new
  have hkeyed : old.IsKeyedByName := by decide +kernel
  have hold : old.HasPlainNames := by decide +kernel
  have hnew : new.HasPlainNames := by decide +kernel
  have hmembers := (diff_exact .default old new).2.1 hkeyed hold hnew
  refine ⟨hkeyed, hold, hnew, ?_⟩
  exact (hmembers.typeChanged "Pet" (pet false) (pet true) rfl rfl "age"
    (by decide +kernel) "Int" "Int?").2 ⟨rfl, rfl, by decide +kernel⟩

end Lists

end ApiModels
