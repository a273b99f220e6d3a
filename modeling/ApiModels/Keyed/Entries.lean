import ApiModels.Keyed.Names

/-!
# Sorted entries and keyed collections

Entries are pairs of a key and a value. `upsert` puts an entry into its place in a list whose keys
ascend strictly, or changes the value that has the key already. From any list of entries
`keyedFirst` makes a sorted one in which the first entry of a key counts, `keyedLast` one in which
the last does.

`Keyed` is a collection with its order in its type; it is looked up by `get?`.
-/

namespace ApiModels

variable {α : Type}

/-- Puts a new entry into its place, or changes the value that has its key. -/
def upsert (key : String) (value : α) (change : α → α) : List (String × α) → List (String × α)
  | [] => [(key, value)]
  | (key', value') :: rest =>
    if key < key' then (key, value) :: (key', value') :: rest
    else if key = key' then (key', change value') :: rest
    else (key', value') :: upsert key value change rest

/-- Puts an entry into its place; it replaces one with the same key. -/
def putEntry (key : String) (value : α) (entries : List (String × α)) : List (String × α) :=
  upsert key value (fun _ => value) entries

/-- Puts an entry into its place unless there is one with the same key. -/
def addEntry (key : String) (value : α) (entries : List (String × α)) : List (String × α) :=
  upsert key value id entries

/-- The entries by ascending key; of several with one key the first counts. -/
def keyedFirst (entries : List (String × α)) : List (String × α) :=
  entries.foldr (fun entry => putEntry entry.1 entry.2) []

/-- The entries by ascending key; of several with one key the last counts. -/
def keyedLast (entries : List (String × α)) : List (String × α) :=
  entries.foldr (fun entry => addEntry entry.1 entry.2) []

/-- The keys ascend strictly. -/
def Ascending (entries : List (String × α)) : Prop :=
  entries.Pairwise fun a b => a.1 < b.1

theorem ascending_iff_keys {entries : List (String × α)} :
    Ascending entries ↔ (entries.map (·.1)).Pairwise (· < ·) := List.pairwise_map.symm

theorem mem_keys_upsert {key other : String} {value : α} {change : α → α}
    {entries : List (String × α)} :
    other ∈ (upsert key value change entries).map (·.1) ↔
      other = key ∨ other ∈ entries.map (·.1) := by
  induction entries with
  | nil => simp [upsert]
  | cons head rest ih =>
    obtain ⟨key', value'⟩ := head
    rw [upsert]
    split
    · simp
    · split
      · next h => simp [h]
      · rw [List.map_cons, List.mem_cons, ih, List.map_cons, List.mem_cons, or_left_comm]

theorem ascending_upsert {key : String} {value : α} {change : α → α}
    {entries : List (String × α)} (h : Ascending entries) :
    Ascending (upsert key value change entries) := by
  induction entries with
  | nil => simp [upsert, Ascending]
  | cons head rest ih =>
    obtain ⟨key', value'⟩ := head
    have ⟨hhead, hrest⟩ := List.pairwise_cons.1 h
    rw [upsert]
    split
    · next hlt =>
      refine List.pairwise_cons.2 ⟨fun x hx => ?_, h⟩
      rcases List.mem_cons.1 hx with rfl | hx
      · exact hlt
      · exact String.lt_trans hlt (hhead x hx)
    · split
      · exact List.pairwise_cons.2 ⟨hhead, hrest⟩
      · next hlt hne =>
        refine List.pairwise_cons.2 ⟨fun x hx => ?_, ih hrest⟩
        have hkey : x.1 ∈ (upsert key value change rest).map (·.1) := List.mem_map_of_mem hx
        rcases mem_keys_upsert.1 hkey with heq | hmem
        · rw [heq]
          exact Std.lt_of_le_of_ne (String.not_lt.1 hlt) (Ne.symm hne)
        · obtain ⟨y, hy, hyx⟩ := List.mem_map.1 hmem
          exact hyx ▸ hhead y hy

theorem ascending_keyedFirst (entries : List (String × α)) : Ascending (keyedFirst entries) := by
  induction entries with
  | nil => simp [keyedFirst, Ascending]
  | cons head rest ih => exact ascending_upsert ih

theorem ascending_keyedLast (entries : List (String × α)) : Ascending (keyedLast entries) := by
  induction entries with
  | nil => simp [keyedLast, Ascending]
  | cons head rest ih => exact ascending_upsert ih

@[simp] theorem mem_keys_keyedFirst {key : String} {entries : List (String × α)} :
    key ∈ (keyedFirst entries).map (·.1) ↔ key ∈ entries.map (·.1) := by
  induction entries with
  | nil => simp [keyedFirst]
  | cons head rest ih =>
    rw [show keyedFirst (head :: rest) = putEntry head.1 head.2 (keyedFirst rest) from rfl,
      putEntry, mem_keys_upsert, ih, List.map_cons, List.mem_cons]

@[simp] theorem mem_keys_keyedLast {key : String} {entries : List (String × α)} :
    key ∈ (keyedLast entries).map (·.1) ↔ key ∈ entries.map (·.1) := by
  induction entries with
  | nil => simp [keyedLast]
  | cons head rest ih =>
    rw [show keyedLast (head :: rest) = addEntry head.1 head.2 (keyedLast rest) from rfl,
      addEntry, mem_keys_upsert, ih, List.map_cons, List.mem_cons]

/-! ### Collections -/

/-- A collection of values by key, kept in strictly ascending order of the keys. -/
structure Keyed (α : Type) where
  /-- The keys with their values. -/
  entries : List (String × α)
  /-- The keys ascend. -/
  ascending : Ascending entries

namespace Keyed

/-- The collection without entries. -/
def empty : Keyed α := ⟨[], List.Pairwise.nil⟩

instance : Inhabited (Keyed α) := ⟨empty⟩

/-- The collection of a list of entries, in which the first entry of a key counts. -/
def ofList (entries : List (String × α)) : Keyed α := ⟨keyedFirst entries, ascending_keyedFirst _⟩

/-- The value of a key. -/
def get? (k : Keyed α) (key : String) : Option α := k.entries.lookup key

/-- The keys in ascending order. -/
def keys (k : Keyed α) : List String := k.entries.map (·.1)

/-- Whether a key has a value. -/
def contains (k : Keyed α) (key : String) : Bool := (k.get? key).isSome

/-- Whether there is no entry. -/
def isEmpty (k : Keyed α) : Bool := k.entries.isEmpty

theorem pairwise_keys (k : Keyed α) : k.keys.Pairwise (· < ·) :=
  List.pairwise_map.2 k.ascending

end Keyed

end ApiModels
