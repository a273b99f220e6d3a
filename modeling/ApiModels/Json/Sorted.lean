import ApiModels.Json.Basic

/-!
# Sorted values

A value is sorted if the members of every object in it ascend strictly by name. `sorted_canonical`
says that the canonical form is sorted, `canonical_eq_self` that a sorted value is its own canonical
form.
-/

namespace ApiModels.Json

mutual

/-- The members of every object in the value ascend strictly. -/
def Sorted : Json → Prop
  | .list items => SortedItems items
  | .object members => Ascending members ∧ SortedMembers members
  | _ => True

/-- All items are sorted. -/
def SortedItems : List Json → Prop
  | [] => True
  | item :: items => Sorted item ∧ SortedItems items

/-- The values of all members are sorted. -/
def SortedMembers : List (String × Json) → Prop
  | [] => True
  | (_, value) :: members => Sorted value ∧ SortedMembers members

end

theorem sortedItems_iff {items : List Json} : SortedItems items ↔ ∀ item ∈ items, Sorted item := by
  induction items with
  | nil => simp [SortedItems]
  | cons item items ih => simp [SortedItems, ih]

theorem sortedMembers_iff {members : List (String × Json)} :
    SortedMembers members ↔ ∀ member ∈ members, Sorted member.2 := by
  induction members with
  | nil => simp [SortedMembers]
  | cons member members ih => simp [SortedMembers, ih]

theorem mem_upsert_id {α : Type} {key : String} {value : α} {entries : List (String × α)}
    {entry : String × α} (h : entry ∈ upsert key value id entries) :
    entry = (key, value) ∨ entry ∈ entries := by
  induction entries with
  | nil => simpa [upsert] using h
  | cons head rest ih =>
    obtain ⟨key', value'⟩ := head
    rw [upsert] at h
    split at h
    · simpa using h
    · split at h
      · exact .inr (by simpa using h)
      · rcases List.mem_cons.1 h with rfl | h
        · simp
        · rcases ih h with h | h <;> simp [h]

theorem mem_of_mem_keyedLast {α : Type} {entries : List (String × α)} {entry : String × α}
    (h : entry ∈ keyedLast entries) : entry ∈ entries := by
  induction entries with
  | nil => simp [keyedLast] at h
  | cons head rest ih =>
    rcases mem_upsert_id (show entry ∈ upsert head.1 head.2 id (keyedLast rest) from h) with h | h
    · exact h ▸ List.mem_cons_self
    · exact List.mem_cons_of_mem _ (ih h)

/-- A list of entries in ascending order is not changed by sorting. -/
theorem keyedLast_eq_self {α : Type} {entries : List (String × α)} (h : Ascending entries) :
    keyedLast entries = entries := by
  induction entries with
  | nil => rfl
  | cons head rest ih =>
    have ⟨hhead, hrest⟩ := List.pairwise_cons.1 h
    rw [show keyedLast (head :: rest) = upsert head.1 head.2 id (keyedLast rest) from rfl,
      ih hrest]
    cases rest with
    | nil => rfl
    | cons next rest => simp [upsert, hhead next]

mutual

theorem sorted_canonical : (value : Json) → Sorted (canonical value)
  | .null => by simp [canonical, Sorted]
  | .bool _ => by simp [canonical, Sorted]
  | .number _ => by simp [canonical, Sorted]
  | .text _ => by simp [canonical, Sorted]
  | .list items => by simpa [canonical, Sorted] using sortedItems_canonicalItems items
  | .object members => by
    rw [canonical, Sorted]
    refine ⟨ascending_keyedLast _, sortedMembers_iff.2 fun member hm => ?_⟩
    exact sortedMembers_iff.1 (sortedMembers_canonicalMembers members) member
      (mem_of_mem_keyedLast hm)

theorem sortedItems_canonicalItems : (items : List Json) → SortedItems (canonicalItems items)
  | [] => by simp [canonicalItems, SortedItems]
  | item :: items => ⟨sorted_canonical item, sortedItems_canonicalItems items⟩

theorem sortedMembers_canonicalMembers :
    (members : List (String × Json)) → SortedMembers (canonicalMembers members)
  | [] => by simp [canonicalMembers, SortedMembers]
  | (_, value) :: members => ⟨sorted_canonical value, sortedMembers_canonicalMembers members⟩

end

mutual

theorem canonical_eq_self : (value : Json) → Sorted value → canonical value = value
  | .null, _ => rfl
  | .bool _, _ => rfl
  | .number _, _ => rfl
  | .text _, _ => rfl
  | .list items, h => by rw [canonical, canonicalItems_eq_self items h]
  | .object members, h => by
    rw [canonical, canonicalMembers_eq_self members h.2, keyedLast_eq_self h.1]

theorem canonicalItems_eq_self : (items : List Json) → SortedItems items →
    canonicalItems items = items
  | [], _ => rfl
  | item :: items, h => by
    rw [canonicalItems, canonical_eq_self item h.1, canonicalItems_eq_self items h.2]

theorem canonicalMembers_eq_self : (members : List (String × Json)) → SortedMembers members →
    canonicalMembers members = members
  | [], _ => rfl
  | (name, value) :: members, h => by
    rw [canonicalMembers, canonical_eq_self value h.1, canonicalMembers_eq_self members h.2]

end

/-- The sorted values are the fixed points of the canonical form. -/
theorem canonical_eq_self_iff {value : Json} : canonical value = value ↔ Sorted value :=
  ⟨fun h => h ▸ sorted_canonical value, canonical_eq_self value⟩

instance : DecidablePred Sorted := fun _ => decidable_of_iff _ canonical_eq_self_iff

/-! ### Parts of sorted values -/

theorem sorted_object_iff {members : List (String × Json)} :
    Sorted (.object members) ↔ Ascending members ∧ ∀ member ∈ members, Sorted member.2 := by
  rw [Sorted, sortedMembers_iff]

theorem sorted_list_iff {items : List Json} :
    Sorted (.list items) ↔ ∀ item ∈ items, Sorted item := by
  rw [Sorted, sortedItems_iff]

theorem mem_of_lookup {α : Type} {entries : List (String × α)} {key : String} {value : α}
    (h : entries.lookup key = some value) : (key, value) ∈ entries := by
  obtain ⟨before, after, rfl, _⟩ := List.lookup_eq_some_iff.1 h
  simp

theorem Sorted.of_lookup {members : List (String × Json)} {name : String} {value : Json}
    (h : Sorted (.object members)) (hv : members.lookup name = some value) : Sorted value :=
  (sorted_object_iff.1 h).2 _ (mem_of_lookup hv)

theorem Sorted.of_get? {value part : Json} {name : String} (h : Sorted value)
    (hp : value.get? name = some part) : Sorted part := by
  obtain ⟨members, hmembers, hpart⟩ := Option.bind_eq_some_iff.1 hp
  cases value <;> simp [members?] at hmembers
  exact h.of_lookup (hmembers ▸ hpart)

theorem Sorted.filter {members : List (String × Json)} (h : Sorted (.object members))
    (keep : String × Json → Bool) : Sorted (.object (members.filter keep)) := by
  have ⟨hasc, hvalues⟩ := sorted_object_iff.1 h
  exact sorted_object_iff.2 ⟨hasc.filter keep, fun m hm => hvalues m (List.mem_filter.1 hm).1⟩

end ApiModels.Json
