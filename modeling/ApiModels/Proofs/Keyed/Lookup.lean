import ApiModels.Json.Sorted
import Mathlib.Data.List.Forall2

/-!
# Looking up entries

In a list of entries without a repeated key, the entries are exactly the keys with the values that
are found for them (`lookup_eq_some_iff_mem`), and dropping entries by their keys changes nothing
about the keys that are left (`lookup_filter`). Entries whose keys ascend strictly repeat none.
-/

namespace ApiModels

variable {α : Type} {entries : List (String × α)}

theorem nodup_of_pairwise_lt {names : List String} (h : names.Pairwise (· < ·)) : names.Nodup := by
  apply h.imp
  rintro a _ hlt rfl
  exact String.lt_irrefl a hlt

theorem Ascending.nodup_keys (h : Ascending entries) : (entries.map (·.1)).Nodup :=
  nodup_of_pairwise_lt (ascending_iff_keys.1 h)

theorem lookup_cons_eq_ite (entry : String × α) (entries : List (String × α)) (key : String) :
    (entry :: entries).lookup key = if key = entry.1 then some entry.2 else entries.lookup key := by
  rw [List.lookup_cons]
  by_cases h : key = entry.1
  · rw [if_pos h, beq_iff_eq.2 h]
  · rw [if_neg h, beq_eq_false_iff_ne.2 h]

theorem lookup_eq_some_iff_mem (h : (entries.map (·.1)).Nodup) {key : String} {value : α} :
    entries.lookup key = some value ↔ (key, value) ∈ entries := by
  refine ⟨Json.mem_of_lookup, fun hmem => ?_⟩
  induction entries with
  | nil => cases hmem
  | cons entry entries ih =>
    obtain ⟨other, value'⟩ := entry
    rw [List.map_cons, List.nodup_cons] at h
    rcases List.mem_cons.1 hmem with heq | hmem
    · cases heq
      exact List.lookup_cons_self
    · have hne : key ≠ other := fun heq => h.1 (heq ▸ List.mem_map.2 ⟨_, hmem, rfl⟩)
      rw [lookup_cons_eq_ite, if_neg hne]
      exact ih h.2 hmem

theorem lookup_eq_none_iff_not_mem_keys {key : String} :
    entries.lookup key = none ↔ key ∉ entries.map (·.1) := by
  rw [List.lookup_eq_none_iff]
  constructor
  · intro h hmem
    obtain ⟨entry, hentry, heq⟩ := List.mem_map.1 hmem
    have hne := h entry hentry
    simp [heq] at hne
  · intro h entry hentry
    rw [bne_iff_ne]
    exact fun heq => h (heq ▸ List.mem_map.2 ⟨entry, hentry, rfl⟩)

theorem isSome_lookup_iff_mem_keys {key : String} :
    (entries.lookup key).isSome = true ↔ key ∈ entries.map (·.1) := by
  rw [← Option.ne_none_iff_isSome, ne_eq, lookup_eq_none_iff_not_mem_keys]
  exact Decidable.not_not

/-! ### Lists side by side -/

theorem exists_mem_of_forall₂ {β γ : Type} {R : β → γ → Prop} {l : List β} {l' : List γ}
    (h : List.Forall₂ R l l') {b : β} (hb : b ∈ l) : ∃ c ∈ l', R b c := by
  induction h with
  | nil => cases hb
  | cons hpair _ ih =>
    rcases List.mem_cons.1 hb with rfl | hb
    · exact ⟨_, List.mem_cons_self, hpair⟩
    · obtain ⟨c, hc, hpair⟩ := ih hb
      exact ⟨c, List.mem_cons_of_mem _ hc, hpair⟩

/-! ### Filtering -/

theorem filter_flatMap {β γ : Type} {f : β → List γ} {q : γ → Bool} {keep : β → Bool} {l : List β}
    (h : ∀ a ∈ l, ∀ b ∈ f a, q b = keep a) :
    (l.flatMap f).filter q = (l.filter keep).flatMap f := by
  induction l with
  | nil => rfl
  | cons a l ih =>
    have ha := h a List.mem_cons_self
    have hrest := ih fun a' ha' => h a' (List.mem_cons_of_mem a ha')
    rw [List.flatMap_cons, List.filter_append, hrest, List.filter_cons]
    by_cases hkeep : keep a = true
    · have hall : (f a).filter q = f a := List.filter_eq_self.2 fun b hb => (ha b hb).trans hkeep
      rw [if_pos hkeep, List.flatMap_cons, hall]
    · have hnone : (f a).filter q = [] :=
        List.filter_eq_nil_iff.2 fun b hb hq => hkeep ((ha b hb).symm.trans hq)
      rw [if_neg hkeep, hnone, List.nil_append]

theorem lookup_filter {keep : String → Bool} {key : String} (hkeep : keep key = true) :
    (entries.filter fun entry => keep entry.1).lookup key = entries.lookup key := by
  induction entries with
  | nil => rfl
  | cons entry entries ih =>
    rw [List.filter_cons, lookup_cons_eq_ite]
    by_cases heq : key = entry.1
    · rw [if_pos heq, if_pos (heq ▸ hkeep), lookup_cons_eq_ite, if_pos heq]
    · rw [if_neg heq]
      split
      · rw [lookup_cons_eq_ite, if_neg heq]
        exact ih
      · exact ih

theorem filter_eq_singleton {β γ : Type} [DecidableEq γ] {key : β → Option γ} {l : List β}
    (h : (l.filterMap key).Nodup) {a : β} (ha : a ∈ l) {k : γ} (hk : key a = some k) :
    l.filter (fun b => key b == some k) = [a] := by
  induction l with
  | nil => cases ha
  | cons b l ih =>
    by_cases hb : key b = some k
    · rw [List.filterMap_cons_some hb, List.nodup_cons] at h
      have hrest : ∀ c ∈ l, ¬ (key c == some k) = true := by
        intro c hc hkey
        exact h.1 (List.mem_filterMap.2 ⟨c, hc, beq_iff_eq.1 hkey⟩)
      rw [List.filter_cons, if_pos (beq_iff_eq.2 hb), List.filter_eq_nil_iff.2 hrest]
      rcases List.mem_cons.1 ha with rfl | ha
      · rfl
      · exact absurd (beq_iff_eq.2 hk) (hrest a ha)
    · have hrest : (l.filterMap key).Nodup :=
        h.sublist ((List.sublist_cons_self b l).filterMap key)
      rw [List.filter_cons, if_neg (by rwa [beq_iff_eq])]
      rcases List.mem_cons.1 ha with rfl | ha
      · exact absurd hk hb
      · exact ih hrest ha

/-- Where no key repeats, what comes from one key only comes from its entry. -/
theorem flatMap_eq_of_mem {β : Type} {f : String × α → List β} (h : (entries.map (·.1)).Nodup)
    {entry : String × α} (hentry : entry ∈ entries)
    (hothers : ∀ other ∈ entries, other.1 ≠ entry.1 → f other = []) :
    entries.flatMap f = f entry := by
  induction entries with
  | nil => cases hentry
  | cons first entries ih =>
    rw [List.map_cons, List.nodup_cons] at h
    have hrest := fun other hmem => hothers other (List.mem_cons_of_mem first hmem)
    rw [List.flatMap_cons]
    rcases List.mem_cons.1 hentry with rfl | hentry
    · have hnil : entries.flatMap f = [] := by
        refine List.flatMap_eq_nil_iff.2 fun other hmem => hrest other hmem fun heq => ?_
        exact h.1 (heq ▸ List.mem_map_of_mem hmem)
      rw [hnil, List.append_nil]
    · have hfirst : f first = [] := by
        refine hothers first List.mem_cons_self fun heq => ?_
        exact h.1 (heq ▸ List.mem_map_of_mem hentry)
      rw [hfirst, List.nil_append, ih h.2 hentry hrest]

/-! ### Collections -/

theorem lookup_putEntry (key other : String) (value : α) (entries : List (String × α)) :
    (putEntry key value entries).lookup other =
      if other = key then some value else entries.lookup other := by
  induction entries with
  | nil => exact lookup_cons_eq_ite (key, value) [] other
  | cons entry entries ih =>
    obtain ⟨key', value'⟩ := entry
    unfold putEntry upsert
    by_cases hlt : key < key'
    · rw [if_pos hlt, lookup_cons_eq_ite]
    · rw [if_neg hlt]
      by_cases hkey : key = key'
      · subst hkey
        rw [if_pos rfl, lookup_cons_eq_ite, lookup_cons_eq_ite]
        by_cases heq : other = key
        · rw [if_pos heq, if_pos heq]
        · rw [if_neg heq, if_neg heq, if_neg heq]
      · rw [if_neg hkey, lookup_cons_eq_ite, lookup_cons_eq_ite]
        by_cases heq : other = key'
        · have hne : other ≠ key := fun h => hkey (h.symm.trans heq)
          rw [if_pos heq, if_neg hne, if_pos heq]
        · rw [if_neg heq, if_neg heq]
          exact ih

theorem exists_putEntry_eq_append {key : String} (hkey : key ∉ entries.map (·.1)) (value : α) :
    ∃ before after, entries = before ++ after ∧
      putEntry key value entries = before ++ (key, value) :: after := by
  induction entries with
  | nil => exact ⟨[], [], rfl, rfl⟩
  | cons entry entries ih =>
    obtain ⟨key', value'⟩ := entry
    rw [List.map_cons, List.mem_cons, not_or] at hkey
    by_cases hlt : key < key'
    · refine ⟨[], (key', value') :: entries, rfl, ?_⟩
      rw [putEntry, upsert, if_pos hlt, List.nil_append]
    · obtain ⟨before, after, rfl, hput⟩ := ih hkey.2
      refine ⟨(key', value') :: before, after, rfl, ?_⟩
      rw [putEntry] at hput
      rw [putEntry, upsert, if_neg hlt, if_neg hkey.1, hput, List.cons_append]

/-- The entries with the value of a key changed. -/
def changeValue (key : String) (change : α → α) (entries : List (String × α)) :
    List (String × α) :=
  entries.map fun entry => (entry.1, if entry.1 = key then change entry.2 else entry.2)

theorem lookup_changeValue (key other : String) (change : α → α) (entries : List (String × α)) :
    (changeValue key change entries).lookup other =
      if other = key then (entries.lookup other).map change else entries.lookup other := by
  induction entries with
  | nil => simp [changeValue]
  | cons entry entries ih =>
    rw [changeValue] at ih
    rw [changeValue, List.map_cons, lookup_cons_eq_ite, lookup_cons_eq_ite, ih]
    by_cases hentry : other = entry.1
    · subst hentry
      by_cases hkey : entry.1 = key
      · simp [hkey]
      · simp [hkey]
    · simp [hentry]

theorem lookup_keyedFirst (entries : List (String × α)) (key : String) :
    (keyedFirst entries).lookup key = entries.lookup key := by
  induction entries with
  | nil => rfl
  | cons entry entries ih =>
    have hstep : keyedFirst (entry :: entries) = putEntry entry.1 entry.2 (keyedFirst entries) :=
      rfl
    rw [hstep, lookup_putEntry, ih, lookup_cons_eq_ite]

end ApiModels
