import ApiModels.Proofs.Change.Part
import ApiModels.Proofs.Compilation.Equatable

/-!
# Adding a property to a record

If one set of declarations has the declarations of another one, with one more property in a record,
then the diff lists this property and nothing else (`diff_eq_of_addsMember`). Whatever else may
differ, such as descriptions or the marks of comparability, is not compared. For two lists this can
be told declaration by declaration (`addsMember_ofList`).
-/

namespace ApiModels

/-! ### Records -/

/-- A record has the properties of another one and, in between, one more with a new name. -/
structure RecordType.AddsProperty (added : String) (old new : RecordType) : Prop where
  name : new.name = old.name
  isNew : added ∉ old.propertyNames
  properties : ∃ before property after, old.properties = before ++ after ∧
    property.name = added ∧ new.properties = before ++ property :: after

/-- Two declarations have the same members. -/
inductive Declaration.SharesMembers : Declaration → Declaration → Prop
  | enum (e : EnumType) : SharesMembers (.enum e) (.enum e)
  | record {r s : RecordType} (h : s.properties = r.properties) :
    SharesMembers (.record r) (.record s)

section Lost

variable {mark : String} {m : Member}

theorem Declaration.SharesMembers.symm {d e : Declaration} (h : d.SharesMembers e) :
    e.SharesMembers d := by
  cases h with
  | enum e => exact .enum e
  | record h => exact .record h.symm

theorem Declaration.SharesMembers.not_lost {d e : Declaration} (h : d.SharesMembers e) :
    ¬ Lost mark d e m := by
  cases h with
  | enum e => exact not_lost_self
  | @record r s h =>
    rintro (⟨hname, hnot⟩ | ⟨htype, hother, hne⟩)
    · rw [RecordType.propertyNames, h] at hnot
      exact hnot hname
    · rw [RecordType.propertyType?, RecordType.property?, h] at hother
      exact hne (Option.some.inj (htype.symm.trans hother))

namespace RecordType.AddsProperty

variable {added : String} {old new : RecordType} (h : old.AddsProperty added new)

include h

theorem ne_of_mem_propertyNames {name : String} (hname : name ∈ old.propertyNames) :
    name ≠ added := by
  rintro rfl
  exact h.isNew hname

theorem mem_propertyNames {name : String} :
    name ∈ new.propertyNames ↔ name = added ∨ name ∈ old.propertyNames := by
  obtain ⟨before, property, after, hold, hname, hnew⟩ := h.properties
  unfold propertyNames
  rw [hold, hnew, ← hname]
  simp only [List.map_append, List.map_cons, List.mem_append, List.mem_cons]
  exact or_left_comm

theorem propertyType?_of_ne {name : String} (hne : name ≠ added) :
    new.propertyType? mark name = old.propertyType? mark name := by
  obtain ⟨before, property, after, hold, hname, hnew⟩ := h.properties
  have hskip : (property :: after).find? (·.name == name) = after.find? (·.name == name) := by
    refine List.find?_cons_of_neg ?_
    rw [beq_iff_eq, hname]
    exact fun heq => hne heq.symm
  unfold propertyType? property?
  rw [hold, hnew, List.find?_append, List.find?_append, hskip]

theorem not_lost : ¬ Lost mark (.record old) (.record new) m := by
  rintro (⟨hname, hnot⟩ | ⟨htype, hother, hne⟩)
  · exact hnot (h.mem_propertyNames.2 (.inr hname))
  · have hold := mem_propertyNames_of_propertyType? htype
    rw [h.propertyType?_of_ne (h.ne_of_mem_propertyNames hold)] at hother
    exact hne (Option.some.inj (htype.symm.trans hother))

/-- **Only the new property is missing in the old record.** -/
theorem lostMembers_eq :
    lostMembers mark (.record new) (.record old) = [.property added] := by
  refine List.perm_singleton.1 ((List.perm_ext_iff_of_nodup nodup_lostMembers
    (List.nodup_singleton _)).2 fun m => ?_)
  rw [mem_lostMembers, List.mem_singleton]
  constructor
  · rintro (⟨hname, hnot⟩ | ⟨htype, hother, hne⟩)
    · exact ((h.mem_propertyNames.1 hname).resolve_right hnot) ▸ rfl
    · -- A property that both records have has the same type in both.
      have hold := mem_propertyNames_of_propertyType? hother
      rw [h.propertyType?_of_ne (h.ne_of_mem_propertyNames hold)] at htype
      exact absurd (Option.some.inj (htype.symm.trans hother)) hne
  · rintro rfl
    exact .property (h.mem_propertyNames.2 (.inl rfl)) h.isNew

end RecordType.AddsProperty

end Lost

/-! ### Declarations side by side -/

/-- A declaration after the record of a type was given one more property. -/
inductive Declaration.Gains (type added : String) : Declaration → Declaration → Prop
  | same {d e : Declaration} (hne : d.name ≠ type) (hname : e.name = d.name)
      (h : d.SharesMembers e) : Gains type added d e
  | adds {r s : RecordType} (hname : r.name = type) (h : r.AddsProperty added s) :
      Gains type added (.record r) (.record s)

namespace Declaration.Gains

variable {type added : String}

theorem name_eq {d e : Declaration} (h : d.Gains type added e) : e.name = d.name := by
  cases h with
  | same hne hname h => exact hname
  | adds hname h => exact h.name

/-- The marks of comparability do not matter. -/
theorem marked_iff {r s : RecordType} {mark : Bool} :
    (Declaration.record (r.marked mark)).Gains type added (.record (s.marked mark)) ↔
      (Declaration.record r).Gains type added (.record s) := by
  -- Neither direction looks at a mark.
  constructor
  all_goals
    intro h
    cases h with
    | same hne hname h =>
      cases h with
      | record h => exact .same hne hname (.record h)
    | adds hname h => exact .adds hname ⟨h.name, h.isNew, h.properties⟩

variable {old new : List Declaration} (h : List.Forall₂ (Declaration.Gains type added) old new)

include h

theorem map_name_eq : new.map (·.name) = old.map (·.name) := by
  induction h with
  | nil => rfl
  | cons hgains _ ih => rw [List.map_cons, List.map_cons, hgains.name_eq, ih]

end Declaration.Gains

/-! ### Sets of declarations -/

/-- The declarations of one set are those of another, with one more property in the record of a
type. -/
structure DeclarationMap.AddsMember (type added : String) (old new : DeclarationMap) : Prop where
  keys : new.keys = old.keys
  record : ∃ r s, old.get? type = some (.record r) ∧ new.get? type = some (.record s) ∧
    r.name = type ∧ r.AddsProperty added s
  others : ∀ name d e, name ≠ type → old.get? name = some d → new.get? name = some e →
    d.SharesMembers e

theorem addsMember_ofList {type added : String} {old new : List Declaration}
    (hnodup : (old.map (·.name)).Nodup)
    (h : List.Forall₂ (Declaration.Gains type added) old new) (htype : type ∈ old.map (·.name)) :
    (DeclarationMap.ofList old).AddsMember type added (DeclarationMap.ofList new) := by
  have hnames : new.map (·.name) = old.map (·.name) := Declaration.Gains.map_name_eq h
  have hnodup' : (new.map (·.name)).Nodup := hnames.symm ▸ hnodup
  -- What a name has in the first set, has its partner under the same name in the second.
  have hpartner : ∀ name d, (DeclarationMap.ofList old).get? name = some d →
      d.name = name ∧ ∃ e, (DeclarationMap.ofList new).get? name = some e ∧
        d.Gains type added e := by
    intro name d hget
    obtain ⟨hd, hname⟩ := (get?_ofList hnodup).1 hget
    obtain ⟨e, he, hgains⟩ := exists_mem_of_forall₂ h hd
    exact ⟨hname, e, (get?_ofList hnodup').2 ⟨he, hgains.name_eq.trans hname⟩, hgains⟩
  constructor
  case keys =>
    have hkeys : ∀ (declarations : List Declaration) name,
        name ∈ (DeclarationMap.ofList declarations).keys ↔ name ∈ declarations.map (·.name) := by
      intro declarations name
      rw [DeclarationMap.ofList, Keyed.ofList, Keyed.keys, mem_keys_keyedFirst, List.map_map]
      rfl
    refine (Keyed.pairwise_keys _).eq_of_mem_iff (Keyed.pairwise_keys _) fun name => ?_
    rw [hkeys, hkeys, hnames]
  case record =>
    obtain ⟨d, hd, hname⟩ := List.mem_map.1 htype
    obtain ⟨-, e, he, hgains⟩ := hpartner type d ((get?_ofList hnodup).2 ⟨hd, hname⟩)
    cases hgains with
    | same hne => exact absurd hname hne
    | @adds r s hname hadds =>
      exact ⟨r, s, (get?_ofList hnodup).2 ⟨hd, hname⟩, he, hname, hadds⟩
  case others =>
    intro name d e hne hget hget'
    obtain ⟨hname, e', he', hgains⟩ := hpartner name d hget
    cases hget'.symm.trans he'
    cases hgains with
    | same _ _ hshares => exact hshares
    | adds hname' => exact absurd (hname.symm.trans hname') hne

theorem Declaration.SharesMembers.kind_eq {d e : Declaration} (h : d.SharesMembers e) :
    d.kind = e.kind := by
  cases h <;> rfl

/-- **The diff lists the property that was added, and calls for a minor version.** -/
theorem diff_eq_of_addsMember {type added : String} {old new : DeclarationMap}
    (profile : RenderProfile) (h : old.AddsMember type added new) :
    diff profile old new = ⟨[], [], [], [memberEntry type added], [], .minor⟩ := by
  obtain ⟨r, s, hr, hs, hname, hadds⟩ := h.record
  -- In what follows a common declaration is that of the type, or it shares its members.
  have hcommon : ∀ name d e, (name, d, e) ∈ commonDeclarations old new →
      name = type ∧ d = .record r ∧ e = .record s ∨ name ≠ type ∧ d.SharesMembers e := by
    intro name d e hmem
    obtain ⟨hd, he⟩ := mem_commonDeclarations.1 hmem
    by_cases heq : name = type
    · subst heq
      exact .inl ⟨rfl, Option.some.inj (hd.symm.trans hr), Option.some.inj (he.symm.trans hs)⟩
    · exact .inr ⟨heq, h.others name d e heq hd he⟩
  have htypes := listsTypes_diff profile old new
  have haddedTypes : (diff profile old new).addedTypes = [] := by
    simp [List.eq_nil_iff_forall_not_mem, htypes.added, h.keys]
  have hremovedTypes : (diff profile old new).removedTypes = [] := by
    simp [List.eq_nil_iff_forall_not_mem, htypes.removed, h.keys]
  have hkinds : (diff profile old new).changedKinds = [] := by
    refine changedKinds_eq_nil_iff.2 fun name d e hmem => ?_
    rcases hcommon name d e hmem with ⟨-, rfl, rfl⟩ | ⟨-, hshares⟩
    · rfl
    · exact hshares.kind_eq
  have hremoved : (diff profile old new).removedMembers = [] := by
    refine removedMembers_eq_nil_iff.2 fun name d e hmem m => ?_
    rcases hcommon name d e hmem with ⟨-, rfl, rfl⟩ | ⟨-, hshares⟩
    · exact hadds.not_lost
    · exact hshares.not_lost
  have hadded : (diff profile old new).addedMembers = [memberEntry type added] := by
    have hmem : (type, .record r, .record s) ∈ commonDeclarations old new :=
      mem_commonDeclarations.2 ⟨hr, hs⟩
    rw [addedMembers_eq_flatMap,
      flatMap_eq_of_mem (ascending_commonDeclarations old new).nodup_keys hmem ?_]
    · show (lostMembers _ (.record s) (.record r)).map (·.entry r.name) = _
      rw [hadds.lostMembers_eq, hname]
      rfl
    · rintro ⟨name, d, e⟩ hmem hne
      rcases hcommon name d e hmem with ⟨rfl, -⟩ | ⟨-, hshares⟩
      · exact absurd rfl hne
      · show (lostMembers _ e d).map (·.entry d.name) = []
        rw [lostMembers_eq_nil_iff.2 fun m => hshares.symm.not_lost]
        rfl
  have hseverity : (diff profile old new).severity = .minor := by
    show classify (diff profile old new).addedTypes (diff profile old new).removedTypes
      (diff profile old new).changedKinds (diff profile old new).addedMembers
      (diff profile old new).removedMembers = .minor
    rw [haddedTypes, hremovedTypes, hkinds, hadded, hremoved]
    rfl
  calc diff profile old new
    _ = ⟨(diff profile old new).addedTypes, (diff profile old new).removedTypes,
        (diff profile old new).changedKinds, (diff profile old new).addedMembers,
        (diff profile old new).removedMembers, (diff profile old new).severity⟩ := rfl
    _ = ⟨[], [], [], [memberEntry type added], [], .minor⟩ := by
      rw [haddedTypes, hremovedTypes, hkinds, hadded, hremoved, hseverity]

end ApiModels
