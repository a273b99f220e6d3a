import ApiModels.Proofs.Json.Reading

/-!
# Typed readers

What the typed readers make of a value, however it is spelled: a value that is no container is
decoded (`readsAs_scalar`), a list is read item by item (`readsAs_readList`), and a record member by
member (`readsAs_read`). `readTyped_eq_ok` is about a whole text.
-/

namespace ApiModels.Json

variable {α σ : Type} {fuel depth : Nat}

theorem ReadsAs.member {reader : Reader α} {value : Json} {a : α}
    (h : ReadsAs fuel reader value a) {named : Reader α}
    (hnamed : ∀ cs inner, skipSpaces cs = ':' :: inner → named cs = reader inner) :
    ReadsMember fuel named value a := by
  intro cs inner rest hcolon hspells hfuel
  rw [hnamed cs inner hcolon]
  exact h inner rest hspells ((length_lt_of_skipSpaces_eq_cons hcolon).le.trans hfuel)

theorem ReadsAs.map {β : Type} {reader : Reader α} {value : Json} {a : α}
    (h : ReadsAs fuel reader value a) (f : α → β) :
    ReadsAs fuel (fun cs => do
      let (a, rest) ← reader cs
      return (f a, rest)) value (f a) := by
  intro cs rest hspells hfuel
  simp only [bind, pure, Except.bind, Except.pure, h cs rest hspells hfuel]

theorem readsAs_scalar {decode : Decoder α} {value : Json} {a : α} (hreadable : Readable 0 value)
    (hdecode : decode value = .ok a) : ReadsAs fuel (scalar fuel decode) value a := by
  intro cs rest hspells hfuel
  have hread := (readsAs_readValue hreadable fuel).trimmed hspells hfuel
  obtain ⟨c, inner, hhead, -, hopen⟩ := hspells.exists_head
  obtain ⟨hlist, hobject⟩ : c ≠ '[' ∧ c ≠ '\x7b' := by
    cases hreadable <;> exact hopen rfl rfl
  -- The first character opens no container, so the whole value is read before it is decoded.
  rw [hhead] at hread
  unfold scalar
  rw [hhead]
  split
  · next heq => exact absurd (List.cons.inj heq).1 hlist
  · next heq => exact absurd (List.cons.inj heq).1 hobject
  · simp only [bind, pure, Except.bind, Except.pure, hread, hdecode]

theorem asNatBelow_ofNat {n bound : Nat} (h : n < bound) (what : String) :
    asNatBelow bound what (.ofNat n) = .ok n := by
  have hrange : 0 ≤ (n : Int) ∧ (n : Int) < bound := by omega
  unfold asNatBelow Json.ofNat
  simp only [if_pos hrange, Int.toNat_natCast]

theorem readsAs_readList {reader : Reader α} {items : List Json} {read : List α}
    (h : List.Forall₂ (ReadsAs fuel reader) items read) (hdepth : depth ≠ 0) :
    ReadsAs fuel (readList reader fuel depth) (.list items) read := by
  intro cs rest hspells hfuel
  cases hspells with
  | @list _ _ inner _ hopen hspells =>
    have hinner : inner.length ≤ fuel := (length_lt_of_skipSpaces_eq_cons hopen).le.trans hfuel
    have hrun := listItems_of_spells (itemSteps_collect h []) hspells hinner hinner
    unfold readList
    rw [hopen]
    simp only [if_neg hdepth, bind, pure, Except.bind, Except.pure] at hrun ⊢
    simp only [hrun, List.append_nil, List.reverse_reverse]

/-- A field of a record is read into the draft, if the draft does not have it. -/
theorem readsMember_readMember {r : Reading σ α} {draft next : σ} {field : ReadingField σ}
    {name : String} {value : Json} (hfield : r.fields.find? (·.name == name) = some field)
    (hunset : field.isSet draft = false) (h : ReadsAs fuel (field.set draft) value next) :
    ReadsMember fuel (r.readMember draft name) value next := by
  refine h.member fun cs inner hcolon => ?_
  unfold Reading.readMember
  rw [hfield]
  simp only [hunset, Bool.false_eq_true, if_false, bind, Except.bind, colon_eq hcolon]

theorem readsAs_read {r : Reading σ α} {members : List (String × Json)} {draft : σ} {a : α}
    (h : MemberSteps fuel r.readMember r.blank members draft) (hfinish : r.finish draft = .ok a)
    (hdepth : depth ≠ 0) : ReadsAs fuel (r.read fuel depth) (.object members) a := by
  intro cs rest hspells hfuel
  cases hspells with
  | @object _ _ inner _ hopen hspells =>
    have hinner : inner.length ≤ fuel := (length_lt_of_skipSpaces_eq_cons hopen).le.trans hfuel
    have hrun := objectMembers_of_spells h hspells hinner hinner
    unfold Reading.read
    rw [hopen]
    simp only [if_neg hdepth, bind, pure, Except.bind, Except.pure, hrun, hfinish]

/-- **A text that spells a value is read as the value is.** -/
theorem readTyped_eq_ok {reader : Reader α} {value : Json} {a : α} {s : String}
    (h : ReadsAs fuel reader value a) (hspells : Spells value s.toList [])
    (hfuel : s.length ≤ fuel) : readTyped reader s = .ok a := by
  have hread := h s.toList [] hspells (String.length_toList.trans_le hfuel)
  unfold readTyped
  simp only [bind, Except.bind, hread]
  rfl

end ApiModels.Json
