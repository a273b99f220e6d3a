import ApiModels.Json.Typed
import ApiModels.Proofs.Json.Spelling
import Mathlib.Data.List.DropRight
import Mathlib.Data.List.Forall2

/-!
# Reading what is spelled

`ReadsAs` says what a reader makes of a value, in whatever way the value is spelled. A value is read
as itself (`readsAs_readValue`). For the readers of containers it is enough to know what they make
of each part: `ItemSteps` and `MemberSteps` are the states through which they go, and
`listItems_of_spells` and `objectMembers_of_spells` are their runs.
-/

namespace ApiModels.Json

/-- A reader reads all texts of a value, up to the given length, as `a`. -/
def ReadsAs {α : Type} (fuel : Nat) (reader : Reader α) (value : Json) (a : α) : Prop :=
  ∀ cs rest, Spells value cs rest → cs.length ≤ fuel → reader cs = .ok (a, rest)

/-- A reader reads the value after a name and a colon as `a`. -/
def ReadsMember {α : Type} (fuel : Nat) (reader : Reader α) (value : Json) (a : α) : Prop :=
  ∀ named inner rest, skipSpaces named = ':' :: inner → Spells value inner rest →
    named.length ≤ fuel → reader named = .ok (a, rest)

/-! ### The length of a text -/

theorem length_lt_of_skipSpaces_eq_cons {c : Char} {cs rest : List Char}
    (h : skipSpaces cs = c :: rest) : rest.length < cs.length := by
  have hle := length_skipSpaces_le cs
  rw [h] at hle
  exact hle

theorem length_lt_of_skipSpaces_eq_append {text cs rest : List Char} (hne : text ≠ [])
    (h : skipSpaces cs = text ++ rest) : rest.length < cs.length := by
  have hpos := List.length_pos_of_ne_nil hne
  have hle := length_skipSpaces_le cs
  rw [h, List.length_append] at hle
  omega

theorem length_lt_of_skipSpaces_eq_quotedOnto {name : String} {cs rest : List Char}
    (h : skipSpaces cs = quotedOnto name rest) : rest.length < cs.length := by
  have hlt := length_lt_of_skipSpaces_eq_cons h
  rw [List.length_append, List.length_cons] at hlt
  omega

theorem length_pos_of_skipSpaces_eq_cons {c : Char} {cs rest : List Char}
    (h : skipSpaces cs = c :: rest) : 0 < cs.length :=
  Nat.zero_lt_of_lt (length_lt_of_skipSpaces_eq_cons h)

mutual

theorem Spells.length_lt {value : Json} {cs rest : List Char} :
    Spells value cs rest → rest.length < cs.length
  | .null h => length_lt_of_skipSpaces_eq_append (by decide) h
  | @Spells.bool true _ _ h => length_lt_of_skipSpaces_eq_append (by decide) h
  | @Spells.bool false _ _ h => length_lt_of_skipSpaces_eq_append (by decide) h
  | @Spells.nat n _ _ _ h =>
    length_lt_of_skipSpaces_eq_append Nat.toDigits_ne_nil (h.trans (scalarOnto_ofNat n rest))
  | .text h => length_lt_of_skipSpaces_eq_quotedOnto h
  | .list h hitems => hitems.length_lt.trans (length_lt_of_skipSpaces_eq_cons h)
  | .object h hmembers => hmembers.length_lt.trans (length_lt_of_skipSpaces_eq_cons h)

theorem SpellsItems.length_lt {isFirst : Bool} {items : List Json} {cs rest : List Char} :
    SpellsItems isFirst items cs rest → rest.length < cs.length
  | .nil h => length_lt_of_skipSpaces_eq_cons h
  | .first hitem hitems => hitems.length_lt.trans hitem.length_lt
  | .next h hitem hitems =>
    (hitems.length_lt.trans hitem.length_lt).trans (length_lt_of_skipSpaces_eq_cons h)

theorem SpellsMembers.length_lt {isFirst : Bool} {members : List (String × Json)}
    {cs rest : List Char} : SpellsMembers isFirst members cs rest → rest.length < cs.length
  | .nil h => length_lt_of_skipSpaces_eq_cons h
  | .first h hcolon hvalue hmembers => by
    have hname := length_lt_of_skipSpaces_eq_quotedOnto h
    have hinner := length_lt_of_skipSpaces_eq_cons hcolon
    exact ((hmembers.length_lt.trans hvalue.length_lt).trans hinner).trans hname
  | .next hcomma h hcolon hvalue hmembers => by
    have hentry := length_lt_of_skipSpaces_eq_cons hcomma
    have hname := length_lt_of_skipSpaces_eq_quotedOnto h
    have hinner := length_lt_of_skipSpaces_eq_cons hcolon
    exact (((hmembers.length_lt.trans hvalue.length_lt).trans hinner).trans hname).trans hentry

end

theorem skipSpaces_skipSpaces (cs : List Char) : skipSpaces (skipSpaces cs) = skipSpaces cs :=
  List.dropWhile_idempotent isSpace cs

theorem Spells.trimmed {value : Json} {cs rest : List Char} (h : Spells value cs rest) :
    Spells value (skipSpaces cs) rest := h.of_skipSpaces_eq (skipSpaces_skipSpaces cs)

theorem ne_of_isDigit {c d : Char} (hc : isDigit c = true) (hd : isDigit d = false) : c ≠ d := by
  rintro rfl
  exact Bool.false_ne_true (hd.symm.trans hc)

/-- The first character of a value closes no list, and opens a container only for one. -/
theorem Spells.exists_head {value : Json} {cs rest : List Char} (h : Spells value cs rest) :
    ∃ c inner, skipSpaces cs = c :: inner ∧ c ≠ ']' ∧
      (value.items? = none → value.members? = none → c ≠ '[' ∧ c ≠ '\x7b') := by
  cases h with
  | null h => exact ⟨_, _, h, by decide, fun _ _ => by decide⟩
  | @bool value _ _ h =>
    cases value with
    | true => exact ⟨_, _, h, by decide, fun _ _ => by decide⟩
    | false => exact ⟨_, _, h, by decide, fun _ _ => by decide⟩
  | @nat n _ _ _ h =>
    obtain ⟨c, inner, hdigits, hc⟩ := exists_digit_scalarOnto n rest
    exact ⟨c, inner, h.trans hdigits, ne_of_isDigit hc rfl,
      fun _ _ => ⟨ne_of_isDigit hc rfl, ne_of_isDigit hc rfl⟩⟩
  | text h => exact ⟨_, _, h, by decide, fun _ _ => by decide⟩
  | list h => exact ⟨_, _, h, by decide, fun hitems => nomatch hitems⟩
  | object h => exact ⟨_, _, h, by decide, fun _ hmembers => nomatch hmembers⟩

/-! ### Steps of the readers -/

section Steps

variable {σ : Type} {n : Nat} {state next : σ} {cs inner after rest : List Char}

section Items

variable {step : σ → List Char → Except Fault (σ × List Char)}

theorem listItems_end {isFirst : Bool} (h : skipSpaces cs = ']' :: rest) :
    listItems step (n + 1) isFirst state cs = .ok (state, rest) := by
  unfold listItems
  rw [h]
  rfl

theorem listItems_first {c : Char} (h : skipSpaces cs = c :: inner) (hc : c ≠ ']')
    (hstep : step state (c :: inner) = .ok (next, after)) :
    listItems step (n + 1) true state cs = listItems step n false next after := by
  conv_lhs => unfold listItems
  rw [h]
  split
  · next heq => cases heq
  · next heq => exact absurd (List.cons.inj heq).1 hc
  · simp only [bind, pure, Except.bind, Except.pure, hstep]
  · contradiction
  · contradiction

theorem listItems_next {c : Char} (hcomma : skipSpaces cs = ',' :: rest)
    (h : skipSpaces rest = c :: inner) (hc : c ≠ ']')
    (hstep : step state (c :: inner) = .ok (next, after)) :
    listItems step (n + 1) false state cs = listItems step n false next after := by
  conv_lhs => unfold listItems
  rw [hcomma]
  simp only [h]
  split
  · next heq => cases heq
  · next heq => exact absurd (List.cons.inj heq).1 hc
  · simp only [bind, pure, Except.bind, Except.pure, hstep]

end Items

section Members

variable {step : σ → String → List Char → Except Fault (σ × List Char)} {name : String}

theorem objectMembers_end {isFirst : Bool} (h : skipSpaces cs = '}' :: rest) :
    objectMembers step (n + 1) isFirst state cs = .ok (state, rest) := by
  unfold objectMembers
  rw [h]
  rfl

theorem objectMembers_first (h : skipSpaces cs = quotedOnto name inner)
    (hstep : step state name inner = .ok (next, after)) :
    objectMembers step (n + 1) true state cs = objectMembers step n false next after := by
  conv_lhs => unfold objectMembers
  rw [h, quotedOnto]
  simp only [bind, pure, Except.bind, Except.pure, readString_escaped, hstep]

theorem objectMembers_next (hcomma : skipSpaces cs = ',' :: rest)
    (h : skipSpaces rest = quotedOnto name inner)
    (hstep : step state name inner = .ok (next, after)) :
    objectMembers step (n + 1) false state cs = objectMembers step n false next after := by
  conv_lhs => unfold objectMembers
  rw [hcomma]
  simp only [h, quotedOnto, bind, pure, Except.bind, Except.pure, readString_escaped, hstep]

end Members

end Steps

/-! ### Runs of the readers -/

/-- The states through which a reader of items goes. -/
inductive ItemSteps {σ : Type} (fuel : Nat) (step : σ → Reader σ) : σ → List Json → σ → Prop
  | nil (state : σ) : ItemSteps fuel step state [] state
  | cons {state next last : σ} {item : Json} {items : List Json}
    (hitem : ReadsAs fuel (step state) item next) (hitems : ItemSteps fuel step next items last) :
    ItemSteps fuel step state (item :: items) last

/-- The states through which a reader of members goes. -/
inductive MemberSteps {σ : Type} (fuel : Nat) (step : σ → String → Reader σ) :
    σ → List (String × Json) → σ → Prop
  | nil (state : σ) : MemberSteps fuel step state [] state
  | cons {state next last : σ} {name : String} {value : Json} {members : List (String × Json)}
    (hmember : ReadsMember fuel (step state name) value next)
    (hmembers : MemberSteps fuel step next members last) :
    MemberSteps fuel step state ((name, value) :: members) last

theorem MemberSteps.append {σ : Type} {fuel : Nat} {step : σ → String → Reader σ}
    {state next last : σ} {members others : List (String × Json)}
    (h : MemberSteps fuel step state members next)
    (hothers : MemberSteps fuel step next others last) :
    MemberSteps fuel step state (members ++ others) last := by
  induction h with
  | nil => exact hothers
  | cons hmember _ ih => exact .cons hmember (ih hothers)

theorem ReadsAs.trimmed {α : Type} {fuel : Nat} {reader : Reader α} {value : Json} {a : α}
    (h : ReadsAs fuel reader value a) {cs rest : List Char} (hspells : Spells value cs rest)
    (hfuel : cs.length ≤ fuel) : reader (skipSpaces cs) = .ok (a, rest) := by
  exact h _ _ hspells.trimmed ((length_skipSpaces_le cs).trans hfuel)

/-- **The items of a list are read one after the other.** -/
theorem listItems_of_spells {σ : Type} {fuel : Nat} {step : σ → Reader σ} {state last : σ}
    {items : List Json} (h : ItemSteps fuel step state items last) {isFirst : Bool}
    {cs rest : List Char} (hspells : SpellsItems isFirst items cs rest) (hfuel : cs.length ≤ fuel)
    {n : Nat} (hn : cs.length ≤ n) : listItems step n isFirst state cs = .ok (last, rest) := by
  -- Every item takes up a part of the text, so there are no more steps than characters.
  induction h generalizing isFirst cs n with
  | nil state =>
    cases hspells with
    | nil hend =>
      have hpos := length_pos_of_skipSpaces_eq_cons hend
      obtain ⟨n, rfl⟩ := Nat.exists_eq_add_one.2 (Nat.lt_of_lt_of_le hpos hn)
      exact listItems_end hend
  | cons hitem hitems ih =>
    cases hspells with
    | first hspells hmore =>
      obtain ⟨c, inner, hhead, hc, -⟩ := hspells.exists_head
      have hlt := hspells.length_lt
      obtain ⟨n, rfl⟩ := Nat.exists_eq_add_one.2 (Nat.lt_of_lt_of_le (Nat.zero_lt_of_lt hlt) hn)
      have hstep := hitem.trimmed hspells hfuel
      rw [hhead] at hstep
      rw [listItems_first hhead hc hstep]
      exact ih hmore (by omega) (by omega)
    | next hcomma hspells hmore =>
      obtain ⟨c, inner, hhead, hc, -⟩ := hspells.exists_head
      have hlt := hspells.length_lt
      have hcommaLt := length_lt_of_skipSpaces_eq_cons hcomma
      obtain ⟨n, rfl⟩ :=
        Nat.exists_eq_add_one.2 (Nat.lt_of_lt_of_le (Nat.zero_lt_of_lt hcommaLt) hn)
      have hstep := hitem.trimmed hspells (by omega)
      rw [hhead] at hstep
      rw [listItems_next hcomma hhead hc hstep]
      exact ih hmore (by omega) (by omega)

/-- **The members of an object are read one after the other.** -/
theorem objectMembers_of_spells {σ : Type} {fuel : Nat} {step : σ → String → Reader σ}
    {state last : σ} {members : List (String × Json)}
    (h : MemberSteps fuel step state members last) {isFirst : Bool} {cs rest : List Char}
    (hspells : SpellsMembers isFirst members cs rest) (hfuel : cs.length ≤ fuel)
    {n : Nat} (hn : cs.length ≤ n) : objectMembers step n isFirst state cs = .ok (last, rest) := by
  induction h generalizing isFirst cs n with
  | nil state =>
    cases hspells with
    | nil hend =>
      have hpos := length_pos_of_skipSpaces_eq_cons hend
      obtain ⟨n, rfl⟩ := Nat.exists_eq_add_one.2 (Nat.lt_of_lt_of_le hpos hn)
      exact objectMembers_end hend
  | cons hmember hmembers ih =>
    cases hspells with
    | first hname hcolon hspells hmore =>
      have hlt := hspells.length_lt
      have hnameLt := length_lt_of_skipSpaces_eq_quotedOnto hname
      have hcolonLt := length_lt_of_skipSpaces_eq_cons hcolon
      obtain ⟨n, rfl⟩ :=
        Nat.exists_eq_add_one.2 (Nat.lt_of_lt_of_le (Nat.zero_lt_of_lt hnameLt) hn)
      rw [objectMembers_first hname (hmember _ _ _ hcolon hspells (by omega))]
      exact ih hmore (by omega) (by omega)
    | next hcomma hname hcolon hspells hmore =>
      have hlt := hspells.length_lt
      have hcommaLt := length_lt_of_skipSpaces_eq_cons hcomma
      have hnameLt := length_lt_of_skipSpaces_eq_quotedOnto hname
      have hcolonLt := length_lt_of_skipSpaces_eq_cons hcolon
      obtain ⟨n, rfl⟩ :=
        Nat.exists_eq_add_one.2 (Nat.lt_of_lt_of_le (Nat.zero_lt_of_lt hcommaLt) hn)
      rw [objectMembers_next hcomma hname (hmember _ _ _ hcolon hspells (by omega))]
      exact ih hmore (by omega) (by omega)

/-! ### Values -/

theorem itemSteps_collect {α : Type} {fuel : Nat} {reader : Reader α} {items : List Json}
    {read : List α} (h : List.Forall₂ (ReadsAs fuel reader) items read) (before : List α) :
    ItemSteps fuel (fun before cs => do
      let (a, rest) ← reader cs
      return (a :: before, rest)) before items (read.reverse ++ before) := by
  induction h generalizing before with
  | nil => exact .nil before
  | @cons item a items read hitem _ ih =>
    rw [List.reverse_cons, List.append_assoc, List.singleton_append]
    refine .cons (fun cs rest hspells hfuel => ?_) (ih (a :: before))
    simp only [bind, pure, Except.bind, Except.pure, hitem cs rest hspells hfuel]

theorem colon_eq {named inner : List Char} (h : skipSpaces named = ':' :: inner) :
    colon named = .ok inner := by
  rw [colon, h]
  rfl

theorem memberSteps_keep {σ : Type} {fuel : Nat} {step : σ → String → Reader σ}
    {state : List (String × Json) → σ} {members : List (String × Json)}
    (h : ∀ member ∈ members, ∀ before, ReadsMember fuel (step (state before) member.1) member.2
      (state (member :: before))) (before : List (String × Json)) :
    MemberSteps fuel step (state before) members (state (members.reverse ++ before)) := by
  induction members generalizing before with
  | nil => exact .nil _
  | cons member members ih =>
    obtain ⟨hmember, hmembers⟩ := List.forall_mem_cons.1 h
    rw [List.reverse_cons, List.append_assoc, List.singleton_append]
    exact .cons (hmember before) (ih hmembers (member :: before))

theorem memberSteps_collect {fuel depth : Nat} {members : List (String × Json)}
    (h : ∀ member ∈ members, ReadsAs fuel (readValue fuel depth) member.2 member.2)
    (before : List (String × Json)) :
    MemberSteps fuel (fun before name cs => do
      let rest ← colon cs
      let (value, rest) ← readValue fuel depth rest
      return ((name, value) :: before, rest)) before members (members.reverse ++ before) := by
  refine @memberSteps_keep _ fuel _ id members
    (fun member hmember before named inner rest hcolon hspells hfuel => ?_) before
  have hinner : inner.length ≤ fuel := (length_lt_of_skipSpaces_eq_cons hcolon).le.trans hfuel
  simp only [bind, pure, Except.bind, Except.pure, colon_eq hcolon,
    h member hmember inner rest hspells hinner, id_eq]

theorem readValue_of_isDigit {fuel depth : Nat} {c : Char} {cs inner rest : List Char}
    {n : JsonNumber} (h : skipSpaces cs = c :: inner) (hc : isDigit c = true)
    (hread : readNumber false (c :: inner) = .ok (n, rest)) :
    readValue fuel depth cs = .ok (.number n, rest) := by
  unfold readValue
  rw [h]
  split
  · next heq => cases heq
  · next heq => cases heq; cases hc
  · next heq => cases heq; cases hc
  · next heq => cases heq; cases hc
  · next heq => cases heq; cases hc
  · next heq => cases heq; cases hc
  · next heq => cases heq; cases hc
  · next heq => cases heq; cases hc
  · next heq =>
    cases heq
    rw [if_pos hc, hread]
    rfl

/-- **A value is read as itself**, however it is spelled. -/
theorem readsAs_readValue {depth : Nat} {value : Json} (h : Readable depth value) (fuel : Nat) :
    ReadsAs fuel (readValue fuel depth) value value := by
  induction h with
  | null =>
    rintro cs rest (hspells | _) -
    unfold readValue
    rw [hspells]
    rfl
  | bool value =>
    intro cs rest hspells hfuel
    cases hspells with
    | bool hspells =>
      unfold readValue
      rw [hspells]
      cases value <;> rfl
  | @nat _ n hn =>
    intro cs rest hspells hfuel
    cases hspells with
    | nat hend hspells =>
      have hread := readNumber_natDigits hn hend
      obtain ⟨c, inner, hdigits, hc⟩ := exists_digit_scalarOnto n rest
      rw [← scalarOnto_ofNat, hdigits] at hread
      exact readValue_of_isDigit (hspells.trans hdigits) hc hread
  | text value =>
    intro cs rest hspells hfuel
    cases hspells with
    | text hspells =>
      unfold readValue
      rw [hspells, quotedOnto]
      simp only [bind, pure, Except.bind, Except.pure, readString_escaped]
  | @list depth items hitems ih =>
    intro cs rest hspells hfuel
    cases hspells with
    | @list _ _ inner _ hopen hspells =>
      have hinner : inner.length ≤ fuel := (length_lt_of_skipSpaces_eq_cons hopen).le.trans hfuel
      have hsteps := itemSteps_collect (List.forall₂_same.2 ih) []
      have hrun := listItems_of_spells hsteps hspells hinner hinner
      unfold readValue
      rw [hopen]
      simp only [bind, pure, Except.bind, Except.pure] at hrun ⊢
      simp only [hrun, List.append_nil, List.reverse_reverse]
  | @object depth members hmembers ih =>
    intro cs rest hspells hfuel
    cases hspells with
    | @object _ _ inner _ hopen hspells =>
      have hinner : inner.length ≤ fuel := (length_lt_of_skipSpaces_eq_cons hopen).le.trans hfuel
      have hrun := objectMembers_of_spells (memberSteps_collect ih []) hspells hinner hinner
      unfold readValue
      rw [hopen]
      simp only [bind, pure, Except.bind, Except.pure] at hrun ⊢
      simp only [hrun, List.append_nil, List.reverse_reverse]

end ApiModels.Json
