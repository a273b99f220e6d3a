import ApiModels.Change.Diff
import ApiModels.Proofs.Keyed.Lookup
import Mathlib.Data.List.Nodup
import Mathlib.Data.List.Sort

/-!
# Members that a declaration has and another one lacks

`Lost` says which members of a declaration another one of the same kind lacks: properties and cases
by their names, and properties that have another type there. `lostMembers` lists them, each once
(`mem_lostMembers`, `nodup_lostMembers`), and the changes of a declaration are what the new one
lacks of the old one and what the old one lacks of the new one (`declarationDiff_eq`).

Written as an entry, a member is still told apart from every other, as long as no separator occurs
in the names of types and members (`entry_inj`).
-/

namespace ApiModels

/-! ### Lists of names -/

section Names

variable {names others : List String} {name : String}

@[simp] theorem mem_namesOnlyIn :
    name ∈ namesOnlyIn names others ↔ name ∈ names ∧ name ∉ others := by
  simp [namesOnlyIn]

@[simp] theorem mem_commonNames :
    name ∈ commonNames names others ↔ name ∈ names ∧ name ∈ others := by
  simp [commonNames]

theorem nodup_namesOnlyIn : (namesOnlyIn names others).Nodup :=
  (nodup_of_pairwise_lt (pairwise_nameSet names)).filter _

theorem nodup_commonNames : (commonNames names others).Nodup :=
  (nodup_of_pairwise_lt (pairwise_nameSet names)).filter _

theorem commonNames_comm (names others : List String) :
    commonNames names others = commonNames others names := by
  have hnames : (commonNames names others).Pairwise (· < ·) := (pairwise_nameSet names).filter _
  have hothers : (commonNames others names).Pairwise (· < ·) := (pairwise_nameSet others).filter _
  refine hnames.eq_of_mem_iff hothers fun name => ?_
  rw [mem_commonNames, mem_commonNames, and_comm]

end Names

/-! ### Members -/

/-- What an entry in a list of members stands for. -/
inductive Member where
  /-- A property. -/
  | property (name : String)
  /-- A property with its type. -/
  | typed (name type : String)
  /-- A case. -/
  | case (identifier : String)
  deriving DecidableEq, Repr

/-- The entry of a member of a type. -/
def Member.entry (type : String) : Member → String
  | .property name => memberEntry type name
  | .typed name propertyType => typedEntry type name propertyType
  | .case identifier => caseEntry type identifier

/-- The type of the first property with a name, as it is declared. -/
def RecordType.propertyType? (mark : String) (r : RecordType) (name : String) : Option String :=
  (r.property? name).map (·.renderedType mark)

/-- The members that the first of two declarations has and the second, which is of the same kind,
lacks. -/
inductive Lost (mark : String) : Declaration → Declaration → Member → Prop
  | property {r s : RecordType} {name : String} :
    name ∈ r.propertyNames → name ∉ s.propertyNames →
    Lost mark (.record r) (.record s) (.property name)
  | typed {r s : RecordType} {name type other : String} :
    r.propertyType? mark name = some type → s.propertyType? mark name = some other →
    type ≠ other → Lost mark (.record r) (.record s) (.typed name type)
  | case {e f : EnumType} {identifier : String} :
    identifier ∈ e.identifiers → identifier ∉ f.identifiers →
    Lost mark (.enum e) (.enum f) (.case identifier)

/-- The member of a common property that has another type in the second record. -/
def lostType? (mark : String) (r s : RecordType) (name : String) : Option Member :=
  match r.propertyType? mark name, s.propertyType? mark name with
  | some type, some other => if type = other then none else some (.typed name type)
  | _, _ => none

/-- The members that the first of two declarations has and the second lacks. -/
def lostMembers (mark : String) : Declaration → Declaration → List Member
  | .record r, .record s =>
    (namesOnlyIn r.propertyNames s.propertyNames).map .property ++
      (commonNames r.propertyNames s.propertyNames).filterMap (lostType? mark r s)
  | .enum e, .enum f => (namesOnlyIn e.identifiers f.identifiers).map .case
  | _, _ => []

section Lost

variable {mark : String} {d e : Declaration} {m : Member}

theorem propertyType?_eq_none_iff {r : RecordType} {name : String} :
    r.propertyType? mark name = none ↔ name ∉ r.propertyNames := by
  simp only [RecordType.propertyType?, RecordType.property?, RecordType.propertyNames,
    Option.map_eq_none_iff, List.find?_eq_none, beq_iff_eq, List.mem_map, not_exists, not_and]

theorem mem_propertyNames_of_propertyType? {r : RecordType} {name type : String}
    (h : r.propertyType? mark name = some type) : name ∈ r.propertyNames := by
  by_contra hname
  rw [propertyType?_eq_none_iff.2 hname] at h
  cases h

theorem lostType?_eq_some_iff {r s : RecordType} {name : String} :
    lostType? mark r s name = some m ↔ ∃ type other, r.propertyType? mark name = some type ∧
      s.propertyType? mark name = some other ∧ type ≠ other ∧ m = .typed name type := by
  unfold lostType?
  constructor
  · intro h
    split at h
    · next type other htype hother =>
      by_cases heq : type = other
      · simp [heq] at h
      · rw [if_neg heq, Option.some.injEq] at h
        exact ⟨type, other, htype, hother, heq, h.symm⟩
    · cases h
  · rintro ⟨type, other, htype, hother, hne, rfl⟩
    simp only [htype, hother, if_neg hne]

theorem mem_lostMembers : m ∈ lostMembers mark d e ↔ Lost mark d e m := by
  constructor
  · intro h
    unfold lostMembers at h
    split at h
    · next r s =>
      rcases List.mem_append.1 h with h | h
      · obtain ⟨name, hname, rfl⟩ := List.mem_map.1 h
        exact .property (mem_namesOnlyIn.1 hname).1 (mem_namesOnlyIn.1 hname).2
      · obtain ⟨name, -, hlost⟩ := List.mem_filterMap.1 h
        obtain ⟨type, other, htype, hother, hne, rfl⟩ := lostType?_eq_some_iff.1 hlost
        exact .typed htype hother hne
    · obtain ⟨identifier, hcase, rfl⟩ := List.mem_map.1 h
      exact .case (mem_namesOnlyIn.1 hcase).1 (mem_namesOnlyIn.1 hcase).2
    · cases h
  · intro h
    cases h with
    | property hname hother =>
      exact List.mem_append_left _ (List.mem_map_of_mem (mem_namesOnlyIn.2 ⟨hname, hother⟩))
    | @typed r s name type other htype hother hne =>
      have hcommon : name ∈ commonNames r.propertyNames s.propertyNames :=
        mem_commonNames.2 ⟨mem_propertyNames_of_propertyType? htype,
          mem_propertyNames_of_propertyType? hother⟩
      have hlost := lostType?_eq_some_iff.2 ⟨type, other, htype, hother, hne, rfl⟩
      exact List.mem_append_right _ (List.mem_filterMap.2 ⟨name, hcommon, hlost⟩)
    | case hcase hother => exact List.mem_map_of_mem (mem_namesOnlyIn.2 ⟨hcase, hother⟩)

theorem lostMembers_eq_nil_iff : lostMembers mark d e = [] ↔ ∀ m, ¬ Lost mark d e m := by
  simp only [List.eq_nil_iff_forall_not_mem, mem_lostMembers]

theorem nodup_lostMembers : (lostMembers mark d e).Nodup := by
  unfold lostMembers
  split
  · next r s =>
    have hnames : ((namesOnlyIn r.propertyNames s.propertyNames).map Member.property).Nodup :=
      nodup_namesOnlyIn.map fun a b h => Member.property.inj h
    have htypes : ((commonNames r.propertyNames s.propertyNames).filterMap
        (lostType? mark r s)).Nodup := by
      refine nodup_commonNames.filterMap fun a b m ha hb => ?_
      obtain ⟨_, _, -, -, -, rfl⟩ := lostType?_eq_some_iff.1 ha
      obtain ⟨_, _, -, -, -, hb⟩ := lostType?_eq_some_iff.1 hb
      exact (Member.typed.inj hb).1
    refine List.nodup_append.2 ⟨hnames, htypes, ?_⟩
    rintro _ hname _ htype rfl
    obtain ⟨name, -, rfl⟩ := List.mem_map.1 hname
    obtain ⟨_, -, hlost⟩ := List.mem_filterMap.1 htype
    obtain ⟨_, _, -, -, -, heq⟩ := lostType?_eq_some_iff.1 hlost
    cases heq
  · exact nodup_namesOnlyIn.map fun a b h => Member.case.inj h
  · exact List.nodup_nil

theorem lost_property_iff {r s : RecordType} {name : String} :
    Lost mark (.record r) (.record s) (.property name) ↔
      name ∈ r.propertyNames ∧ name ∉ s.propertyNames :=
  ⟨fun | .property hname hother => ⟨hname, hother⟩, fun h => .property h.1 h.2⟩

theorem lost_typed_iff {r s : RecordType} {name type : String} :
    Lost mark (.record r) (.record s) (.typed name type) ↔
      r.propertyType? mark name = some type ∧
        ∃ other, s.propertyType? mark name = some other ∧ type ≠ other :=
  ⟨fun | .typed htype hother hne => ⟨htype, _, hother, hne⟩,
    fun ⟨htype, _, hother, hne⟩ => .typed htype hother hne⟩

theorem lost_case_iff {e f : EnumType} {identifier : String} :
    Lost mark (.enum e) (.enum f) (.case identifier) ↔
      identifier ∈ e.identifiers ∧ identifier ∉ f.identifiers :=
  ⟨fun | .case hcase hother => ⟨hcase, hother⟩, fun h => .case h.1 h.2⟩

theorem Lost.not_swap (h : Lost mark d e m) : ¬ Lost mark e d m := by
  rintro (⟨hname, -⟩ | ⟨htype, hother, -⟩ | ⟨hcase, -⟩)
  · rcases h with ⟨-, hnot⟩
    exact hnot hname
  · rcases h with - | ⟨htype', hother', hne⟩
    exact hne (Option.some.inj (hother'.symm.trans htype)).symm
  · rcases h with - | - | ⟨-, hnot⟩
    exact hnot hcase

end Lost

/-! ### Changes of a declaration -/

theorem typeChange_eq (mark : String) (old new : RecordType) (name : String) :
    typeChange mark old new name =
      ⟨((lostType? mark new old name).map (·.entry old.name)).toList,
        ((lostType? mark old new name).map (·.entry old.name)).toList⟩ := by
  unfold typeChange lostType? RecordType.propertyType?
  cases old.property? name with
  | none => cases new.property? name <;> rfl
  | some before =>
    cases new.property? name with
    | none => rfl
    | some after =>
      by_cases h : before.renderedType mark = after.renderedType mark
      · simp [h, MemberDiff.empty]
      · simp [h, Ne.symm h, Member.entry]

theorem map_filterMap_eq_flatMap {α β γ : Type} (g : β → γ) (f : α → Option β) (l : List α) :
    (l.filterMap f).map g = l.flatMap fun a => ((f a).map g).toList := by
  rw [List.map_filterMap, List.filterMap_eq_flatMap_toList]

theorem recordDiff_eq (mark : String) (old new : RecordType) :
    recordDiff mark old new =
      ⟨(lostMembers mark (.record new) (.record old)).map (·.entry old.name),
        (lostMembers mark (.record old) (.record new)).map (·.entry old.name)⟩ := by
  have hcommon := commonNames_comm new.propertyNames old.propertyNames
  unfold recordDiff lostMembers MemberDiff.concat
  simp only [hcommon, List.map_append, List.map_map, map_filterMap_eq_flatMap, List.flatMap_cons,
    List.flatMap_map, typeChange_eq]
  rfl

/-- **The changes of a declaration are the members that are lost in each direction.** -/
theorem declarationDiff_eq (mark : String) (old new : Declaration) :
    declarationDiff mark old new =
      ⟨(lostMembers mark new old).map (·.entry old.name),
        (lostMembers mark old new).map (·.entry old.name)⟩ := by
  cases old with
  | record r =>
    cases new with
    | record s => exact recordDiff_eq mark r s
    | enum f => rfl
  | enum e =>
    cases new with
    | record s => rfl
    | enum f =>
      simp only [declarationDiff, enumDiff, lostMembers, List.map_map]
      rfl

/-! ### Entries of members -/

/-- What separates the parts of an entry. -/
def isEntrySeparator (c : Char) : Bool := c == '.' || c == ':'

/-- No separator occurs in a name. -/
def IsPlain (name : String) : Prop := ∀ c ∈ name.toList, isEntrySeparator c = false

theorem isPlain_iff {name : String} :
    IsPlain name ↔ name.toList.all (!isEntrySeparator ·) = true := by
  simp [IsPlain]

instance (name : String) : Decidable (IsPlain name) := decidable_of_iff _ isPlain_iff.symm

/-- A member whose entry has its separators in the places where they are put. -/
def Member.IsPlain : Member → Prop
  | .property name => ApiModels.IsPlain name
  | .typed name _ => ApiModels.IsPlain name
  | .case _ => True

/-- A text is cut in one way only at its first separator. -/
theorem append_separator_inj {a b r s : List Char} {x y : Char}
    (ha : ∀ c ∈ a, isEntrySeparator c = false) (hx : isEntrySeparator x = true)
    (hb : ∀ c ∈ b, isEntrySeparator c = false) (hy : isEntrySeparator y = true)
    (h : a ++ x :: r = b ++ y :: s) : a = b ∧ x = y ∧ r = s := by
  induction a generalizing b with
  | nil =>
    cases b with
    | nil =>
      cases h
      exact ⟨rfl, rfl, rfl⟩
    | cons d b =>
      cases h
      exact absurd hx (by simp [hb x List.mem_cons_self])
  | cons c a ih =>
    cases b with
    | nil =>
      cases h
      exact absurd hy (by simp [ha y List.mem_cons_self])
    | cons d b =>
      obtain ⟨rfl, htail⟩ := List.cons.inj h
      obtain ⟨heq, hxy, hrs⟩ := ih (fun c hc => ha c (List.mem_cons_of_mem _ hc))
        (fun c hc => hb c (List.mem_cons_of_mem _ hc)) htail
      exact ⟨heq ▸ rfl, hxy, hrs⟩

namespace Member

/-- The characters of an entry after the name of the type and the first separator. -/
def tail : Member → List Char
  | .property name => name.toList
  | .typed name propertyType => name.toList ++ ':' :: propertyType.toList
  | .case identifier => "case".toList ++ '.' :: identifier.toList

theorem toList_entry (type : String) (m : Member) :
    (m.entry type).toList = type.toList ++ '.' :: m.tail := by
  cases m <;> simp [entry, memberEntry, typedEntry, caseEntry, tail]

theorem not_plain_of_toList_eq {name : String} {a r : List Char} {x : Char}
    (hx : isEntrySeparator x = true) (h : name.toList = a ++ x :: r) :
    ¬ ApiModels.IsPlain name := by
  intro hplain
  have hseparator := hplain x (by simp [h])
  exact Bool.false_ne_true (hseparator.symm.trans hx)

theorem tail_inj {m m' : Member} (hm : m.IsPlain) (hm' : m'.IsPlain) (h : m.tail = m'.tail) :
    m = m' := by
  have hcase : ApiModels.IsPlain "case" := by decide
  have hcolon : isEntrySeparator ':' = true := rfl
  have hdot : isEntrySeparator '.' = true := rfl
  cases m with
  | property name =>
    cases m' with
    | property name' => rw [String.toList_inj.1 h]
    | typed name' type' => exact absurd hm (not_plain_of_toList_eq hcolon h)
    | case c' => exact absurd hm (not_plain_of_toList_eq hdot h)
  | typed name type =>
    cases m' with
    | property name' => exact absurd hm' (not_plain_of_toList_eq hcolon h.symm)
    | typed name' type' =>
      obtain ⟨hname, -, htype⟩ := append_separator_inj hm hcolon hm' hcolon h
      rw [String.toList_inj.1 hname, String.toList_inj.1 htype]
    | case c' =>
      obtain ⟨-, habsurd, -⟩ := append_separator_inj hm hcolon hcase hdot h
      exact absurd habsurd (by decide)
  | case c =>
    cases m' with
    | property name' => exact absurd hm' (not_plain_of_toList_eq hdot h.symm)
    | typed name' type' =>
      obtain ⟨-, habsurd, -⟩ := append_separator_inj hcase hdot hm' hcolon h
      exact absurd habsurd (by decide)
    | case c' =>
      obtain ⟨-, -, hc⟩ := append_separator_inj hcase hdot hcase hdot h
      rw [String.toList_inj.1 hc]

/-- **An entry tells the type and the member.** -/
theorem entry_inj {type type' : String} (htype : ApiModels.IsPlain type)
    (htype' : ApiModels.IsPlain type') {m m' : Member} (hm : m.IsPlain) (hm' : m'.IsPlain)
    (h : m.entry type = m'.entry type') : type = type' ∧ m = m' := by
  have hlist : type.toList ++ '.' :: m.tail = type'.toList ++ '.' :: m'.tail := by
    rw [← toList_entry, ← toList_entry, h]
  obtain ⟨heq, -, htail⟩ := append_separator_inj htype rfl htype' rfl hlist
  exact ⟨String.toList_inj.1 heq, tail_inj hm hm' htail⟩

end Member

end ApiModels
