import ApiModels.Proofs.Json.Scalars

/-!
# Texts of values

A value can be written in many ways, with spaces between its parts. `Spells` is the relation between
a value and the texts that start with it. Both printers write such texts (`spells_prettyOnto`,
`spells_compactOnto`), so what is shown of a reader for `Spells` holds of what they write.

The values are those in which numbers are natural numbers of 64 bits and containers do not nest too
deep (`Readable`).
-/

namespace ApiModels.Json

/-! ### Spaces -/

theorem skipSpaces_cons {c : Char} (h : isSpace c = false) (cs : List Char) :
    skipSpaces (c :: cs) = c :: cs := by
  rw [skipSpaces, List.dropWhile_cons_of_neg (by simp [h])]

theorem length_skipSpaces_le (cs : List Char) : (skipSpaces cs).length ≤ cs.length :=
  List.dropWhile_suffix isSpace |>.length_le

theorem skipSpaces_newLineOnto (level : Nat) (rest : List Char) :
    skipSpaces (newLineOnto level rest) = skipSpaces rest := by
  have hindent : ∀ c ∈ '\n' :: List.replicate (2 * level) ' ', isSpace c = true := by
    intro c hc
    rcases List.mem_cons.1 hc with rfl | hc
    · rfl
    · rw [List.eq_of_mem_replicate hc]
      rfl
  rw [newLineOnto, ← List.cons_append, skipSpaces, List.dropWhile_append_of_pos hindent, skipSpaces]

theorem isSpace_of_isDigit {c : Char} (h : isDigit c = true) : isSpace c = false := by
  cases hspace : isSpace c with
  | false => rfl
  | true =>
    have hcases : c = ' ' ∨ c = '\n' ∨ c = '\t' ∨ c = '\r' := by
      simpa [isSpace, or_assoc] using hspace
    rcases hcases with rfl | rfl | rfl | rfl <;> cases h

theorem scalarOnto_ofNat (n : Nat) (rest : List Char) :
    scalarOnto (.ofNat n) rest = Number.natDigits n ++ rest := by
  have hpos : ¬ (n : Int) < 0 := Int.not_lt.2 (Int.natCast_nonneg n)
  rw [Json.ofNat, scalarOnto, numberText, Number.intDigits, if_neg hpos, Int.natAbs_natCast]

theorem exists_digit_scalarOnto (n : Nat) (rest : List Char) :
    ∃ c inner, scalarOnto (.ofNat n) rest = c :: inner ∧ isDigit c = true := by
  rw [scalarOnto_ofNat]
  cases hdigits : Number.natDigits n with
  | nil => exact absurd hdigits Nat.toDigits_ne_nil
  | cons c ds => exact ⟨c, ds ++ rest, rfl, isDigit_of_mem_natDigits (hdigits ▸ List.mem_cons_self)⟩

/-! ### Spelling -/

mutual

/-- A text starts with a value, before which spaces may stand; the last text is what follows. -/
inductive Spells : Json → List Char → List Char → Prop
  | null {cs rest : List Char} (h : skipSpaces cs = scalarOnto .null rest) : Spells .null cs rest
  | bool {value : Bool} {cs rest : List Char} (h : skipSpaces cs = scalarOnto (.bool value) rest) :
    Spells (.bool value) cs rest
  | nat {n : Nat} {cs rest : List Char} (hend : EndsNumber rest)
    (h : skipSpaces cs = scalarOnto (.ofNat n) rest) : Spells (.number (.int n)) cs rest
  | text {value : String} {cs rest : List Char} (h : skipSpaces cs = quotedOnto value rest) :
    Spells (.text value) cs rest
  | list {items : List Json} {cs inner rest : List Char} (h : skipSpaces cs = '[' :: inner)
    (hitems : SpellsItems true items inner rest) : Spells (.list items) cs rest
  | object {members : List (String × Json)} {cs inner rest : List Char}
    (h : skipSpaces cs = '{' :: inner) (hmembers : SpellsMembers true members inner rest) :
    Spells (.object members) cs rest

/-- A text starts with the items that are left of a list, and with its closing bracket. -/
inductive SpellsItems : Bool → List Json → List Char → List Char → Prop
  | nil {isFirst : Bool} {cs rest : List Char} (h : skipSpaces cs = ']' :: rest) :
    SpellsItems isFirst [] cs rest
  | first {item : Json} {items : List Json} {cs after rest : List Char}
    (hitem : Spells item cs after) (hitems : SpellsItems false items after rest) :
    SpellsItems true (item :: items) cs rest
  | next {item : Json} {items : List Json} {cs inner after rest : List Char}
    (h : skipSpaces cs = ',' :: inner) (hitem : Spells item inner after)
    (hitems : SpellsItems false items after rest) : SpellsItems false (item :: items) cs rest

/-- A text starts with the members that are left of an object, and with its closing bracket. -/
inductive SpellsMembers : Bool → List (String × Json) → List Char → List Char → Prop
  | nil {isFirst : Bool} {cs rest : List Char} (h : skipSpaces cs = '}' :: rest) :
    SpellsMembers isFirst [] cs rest
  | first {name : String} {value : Json} {members : List (String × Json)}
    {cs named inner after rest : List Char} (h : skipSpaces cs = quotedOnto name named)
    (hcolon : skipSpaces named = ':' :: inner) (hvalue : Spells value inner after)
    (hmembers : SpellsMembers false members after rest) :
    SpellsMembers true ((name, value) :: members) cs rest
  | next {name : String} {value : Json} {members : List (String × Json)}
    {cs entry named inner after rest : List Char} (hcomma : skipSpaces cs = ',' :: entry)
    (h : skipSpaces entry = quotedOnto name named) (hcolon : skipSpaces named = ':' :: inner)
    (hvalue : Spells value inner after) (hmembers : SpellsMembers false members after rest) :
    SpellsMembers false ((name, value) :: members) cs rest

end

theorem Spells.of_skipSpaces_eq {value : Json} {cs ds rest : List Char} (h : Spells value cs rest)
    (heq : skipSpaces ds = skipSpaces cs) : Spells value ds rest := by
  cases h with
  | null h => exact .null (heq.trans h)
  | bool h => exact .bool (heq.trans h)
  | nat hend h => exact .nat hend (heq.trans h)
  | text h => exact .text (heq.trans h)
  | list h hitems => exact .list (heq.trans h) hitems
  | object h hmembers => exact .object (heq.trans h) hmembers

theorem Spells.newLineOnto {value : Json} {cs rest : List Char} (h : Spells value cs rest)
    (level : Nat) : Spells value (newLineOnto level cs) rest :=
  h.of_skipSpaces_eq (skipSpaces_newLineOnto level cs)

theorem Spells.space {value : Json} {cs rest : List Char} (h : Spells value cs rest) :
    Spells value (' ' :: cs) rest := h.of_skipSpaces_eq rfl

/-! ### Values that can be read back -/

/-- A value that can be read where containers may nest so deep. -/
inductive Readable : Nat → Json → Prop
  | null {depth : Nat} : Readable depth .null
  | bool {depth : Nat} (value : Bool) : Readable depth (.bool value)
  | nat {depth n : Nat} (hn : n ≤ maxWord) : Readable depth (.number (.int n))
  | text {depth : Nat} (value : String) : Readable depth (.text value)
  | list {depth : Nat} {items : List Json} (hitems : ∀ item ∈ items, Readable depth item) :
    Readable (depth + 1) (.list items)
  | object {depth : Nat} {members : List (String × Json)}
    (hmembers : ∀ member ∈ members, Readable depth member.2) :
    Readable (depth + 1) (.object members)

/-! ### Printed text -/

/-- What a printer puts in front of a text spells the value, if the text does not go on with a
number. -/
def IsSpelledBy (onto : Json → List Char → List Char) (value : Json) : Prop :=
  ∀ rest, EndsNumber rest → Spells value (onto value rest) rest

theorem spells_scalarOnto {depth : Nat} {value : Json} (h : Readable depth value)
    (hkind : value.items? = none ∧ value.members? = none) : IsSpelledBy scalarOnto value := by
  intro rest hrest
  cases h with
  | null => exact .null (skipSpaces_cons rfl _)
  | bool value => cases value <;> exact .bool (skipSpaces_cons rfl _)
  | @nat _ n hn =>
    refine .nat hrest ?_
    obtain ⟨c, ds, hdigits, hc⟩ := exists_digit_scalarOnto n rest
    show skipSpaces (scalarOnto (.ofNat n) rest) = scalarOnto (.ofNat n) rest
    rw [hdigits, skipSpaces_cons (isSpace_of_isDigit hc)]
  | text value => exact .text (skipSpaces_cons rfl _)
  | list hitems => cases hkind.1
  | object hmembers => cases hkind.2

theorem endsNumber_newLineOnto (level : Nat) (rest : List Char) :
    EndsNumber (newLineOnto level rest) := endsNumber_cons rfl (by decide) _

theorem skipSpaces_newLineOnto_quotedOnto (level : Nat) (name : String) (rest : List Char) :
    skipSpaces (newLineOnto level (quotedOnto name rest)) = quotedOnto name rest :=
  (skipSpaces_newLineOnto level _).trans (skipSpaces_cons rfl _)

section Pretty

variable {level : Nat}

theorem spellsItems_prettyItemsOnto {items : List Json}
    (h : ∀ item ∈ items, IsSpelledBy (prettyOnto (level + 1)) item) (rest : List Char) :
    EndsNumber (prettyItemsOnto (level + 1) items (newLineOnto level (']' :: rest))) ∧
      SpellsItems false items
        (prettyItemsOnto (level + 1) items (newLineOnto level (']' :: rest))) rest := by
  -- What follows an item has to end a number, so that comes with the induction.
  induction items with
  | nil =>
    refine ⟨endsNumber_newLineOnto _ _, .nil ?_⟩
    rw [prettyItemsOnto, skipSpaces_newLineOnto, skipSpaces_cons rfl]
  | cons item items ih =>
    obtain ⟨hend, hitems⟩ := ih fun item hitem => h item (List.mem_cons_of_mem _ hitem)
    have hitem := (h item List.mem_cons_self _ hend).newLineOnto (level + 1)
    exact ⟨endsNumber_cons rfl (by decide) _, .next (skipSpaces_cons rfl _) hitem hitems⟩

theorem spellsMembers_prettyMembersOnto {members : List (String × Json)}
    (h : ∀ member ∈ members, IsSpelledBy (prettyOnto (level + 1)) member.2) (rest : List Char) :
    EndsNumber (prettyMembersOnto (level + 1) members (newLineOnto level ('}' :: rest))) ∧
      SpellsMembers false members
        (prettyMembersOnto (level + 1) members (newLineOnto level ('}' :: rest))) rest := by
  induction members with
  | nil =>
    refine ⟨endsNumber_newLineOnto _ _, .nil ?_⟩
    rw [prettyMembersOnto, skipSpaces_newLineOnto, skipSpaces_cons rfl]
  | cons member members ih =>
    obtain ⟨hend, hmembers⟩ := ih fun member hmember => h member (List.mem_cons_of_mem _ hmember)
    have hvalue := (h member List.mem_cons_self _ hend).space
    exact ⟨endsNumber_cons rfl (by decide) _, .next (skipSpaces_cons rfl _)
      (skipSpaces_newLineOnto_quotedOnto _ _ _) (skipSpaces_cons rfl _) hvalue hmembers⟩

end Pretty

/-- **The pretty text of a value spells it.** -/
theorem spells_prettyOnto {depth : Nat} {value : Json} (h : Readable depth value) (level : Nat) :
    IsSpelledBy (prettyOnto level) value := by
  induction h generalizing level with
  | null => exact spells_scalarOnto (@Readable.null 0) ⟨rfl, rfl⟩
  | bool value => exact spells_scalarOnto (@Readable.bool 0 value) ⟨rfl, rfl⟩
  | nat hn => exact spells_scalarOnto (@Readable.nat 0 _ hn) ⟨rfl, rfl⟩
  | text value => exact spells_scalarOnto (@Readable.text 0 value) ⟨rfl, rfl⟩
  | @list depth items hitems ih =>
    intro rest hrest
    cases items with
    | nil => exact .list (skipSpaces_cons rfl _) (.nil (skipSpaces_cons rfl _))
    | cons item items =>
      obtain ⟨hend, hmore⟩ := spellsItems_prettyItemsOnto
        (fun item hitem => ih item (List.mem_cons_of_mem _ hitem) (level + 1)) rest
      have hitem := (ih item List.mem_cons_self (level + 1) _ hend).newLineOnto (level + 1)
      exact .list (skipSpaces_cons rfl _) (.first hitem hmore)
  | @object depth members hmembers ih =>
    intro rest hrest
    cases members with
    | nil => exact .object (skipSpaces_cons rfl _) (.nil (skipSpaces_cons rfl _))
    | cons member members =>
      obtain ⟨hend, hmore⟩ := spellsMembers_prettyMembersOnto
        (fun member hmember => ih member (List.mem_cons_of_mem _ hmember) (level + 1)) rest
      have hvalue := (ih member List.mem_cons_self (level + 1) _ hend).space
      exact .object (skipSpaces_cons rfl _) (.first (skipSpaces_newLineOnto_quotedOnto _ _ _)
        (skipSpaces_cons rfl _) hvalue hmore)

section Compact

/-- After the first item of a list every other one stands behind a comma. -/
theorem spellsItems_compactItemsOnto {items : List Json}
    (h : ∀ item ∈ items, IsSpelledBy compactOnto item) (rest : List Char) :
    EndsNumber (compactItemsOnto false items (']' :: rest)) ∧
      SpellsItems false items (compactItemsOnto false items (']' :: rest)) rest := by
  induction items with
  | nil => exact ⟨endsNumber_cons rfl (by decide) _, .nil (skipSpaces_cons rfl _)⟩
  | cons item items ih =>
    obtain ⟨hend, hitems⟩ := ih fun item hitem => h item (List.mem_cons_of_mem _ hitem)
    have hitem := h item List.mem_cons_self _ hend
    exact ⟨endsNumber_cons rfl (by decide) _, .next (skipSpaces_cons rfl _) hitem hitems⟩

theorem spellsMembers_compactMembersOnto {members : List (String × Json)}
    (h : ∀ member ∈ members, IsSpelledBy compactOnto member.2) (rest : List Char) :
    EndsNumber (compactMembersOnto false members ('}' :: rest)) ∧
      SpellsMembers false members (compactMembersOnto false members ('}' :: rest)) rest := by
  induction members with
  | nil => exact ⟨endsNumber_cons rfl (by decide) _, .nil (skipSpaces_cons rfl _)⟩
  | cons member members ih =>
    obtain ⟨hend, hmembers⟩ := ih fun member hmember => h member (List.mem_cons_of_mem _ hmember)
    have hvalue := h member List.mem_cons_self _ hend
    exact ⟨endsNumber_cons rfl (by decide) _, .next (skipSpaces_cons rfl _)
      (skipSpaces_cons rfl _) (skipSpaces_cons rfl _) hvalue hmembers⟩

end Compact

/-- **The compact text of a value spells it.** -/
theorem spells_compactOnto {depth : Nat} {value : Json} (h : Readable depth value) :
    IsSpelledBy compactOnto value := by
  induction h with
  | null => exact spells_scalarOnto (@Readable.null 0) ⟨rfl, rfl⟩
  | bool value => exact spells_scalarOnto (@Readable.bool 0 value) ⟨rfl, rfl⟩
  | nat hn => exact spells_scalarOnto (@Readable.nat 0 _ hn) ⟨rfl, rfl⟩
  | text value => exact spells_scalarOnto (@Readable.text 0 value) ⟨rfl, rfl⟩
  | @list depth items hitems ih =>
    intro rest hrest
    cases items with
    | nil => exact .list (skipSpaces_cons rfl _) (.nil (skipSpaces_cons rfl _))
    | cons item items =>
      obtain ⟨hend, hmore⟩ := spellsItems_compactItemsOnto
        (fun item hitem => ih item (List.mem_cons_of_mem _ hitem)) rest
      have hitem := ih item List.mem_cons_self _ hend
      exact .list (skipSpaces_cons rfl _) (.first hitem hmore)
  | @object depth members hmembers ih =>
    intro rest hrest
    cases members with
    | nil => exact .object (skipSpaces_cons rfl _) (.nil (skipSpaces_cons rfl _))
    | cons member members =>
      obtain ⟨hend, hmore⟩ := spellsMembers_compactMembersOnto
        (fun member hmember => ih member (List.mem_cons_of_mem _ hmember)) rest
      have hvalue := ih member List.mem_cons_self _ hend
      exact .object (skipSpaces_cons rfl _) (.first (skipSpaces_cons rfl _)
        (skipSpaces_cons rfl _) hvalue hmore)

theorem spells_pretty {depth : Nat} {value : Json} (h : Readable depth value) :
    Spells value value.pretty.toList [] := by
  rw [pretty, String.toList_ofList]
  exact spells_prettyOnto h 0 [] endsNumber_nil

theorem spells_compact {depth : Nat} {value : Json} (h : Readable depth value) :
    Spells value value.compact.toList [] := by
  rw [compact, String.toList_ofList]
  exact spells_compactOnto h [] endsNumber_nil

end ApiModels.Json
