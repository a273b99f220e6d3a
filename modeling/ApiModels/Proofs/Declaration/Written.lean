import ApiModels.Declaration.Written
import ApiModels.Proofs.Json.Spelling

/-!
# Written declarations

The members of a declaration but its kind give back the declaration
(`Declaration.ofContent_members`), and their values can be read from text
(`Declaration.readable_members`).
-/

namespace ApiModels

open Json

theorem asKind_name (kind : DeclarationKind) : asKind (.text kind.name) = .ok kind := by
  cases kind <;> rfl

/-! ### Decoding what is written -/

theorem asItems_map {α : Type} {decode : Decoder α} {toJson : α → Json}
    (h : ∀ a, decode (toJson a) = .ok a) (as : List α) :
    asItems decode (as.map toJson) = .ok as := by
  induction as with
  | nil => rfl
  | cons a as ih =>
    rw [List.map_cons, asItems, h, ih]
    rfl

theorem asList_map {α : Type} {decode : Decoder α} {toJson : α → Json}
    (h : ∀ a, decode (toJson a) = .ok a) (as : List α) :
    asList decode (.list (as.map toJson)) = .ok as := asItems_map h as

section Record

variable {σ α : Type} {r : Record σ α} {draft next : σ} {name : String}

theorem readMembers_cons {field : Json.Field σ} (hfield : r.field? name = some field)
    (hunset : field.isSet draft = false) {value : Json} (hset : field.set draft value = .ok next)
    (members : List (String × Json)) :
    r.readMembers draft ((name, value) :: members) = r.readMembers next members := by
  rw [Record.readMembers, hfield]
  simp only [hunset, Bool.false_eq_true, if_false, hset]
  rfl

theorem readMembers_textMember {get : σ → Option (Option String)}
    {put : σ → Option String → σ}
    (hfield : r.field? name = some (optionalField name get put asText))
    (hunset : (get draft).isSome = false) (value : Option String)
    (members : List (String × Json)) : r.readMembers draft (textMember name value ++ members) =
      r.readMembers (value.elim draft fun s => put draft (some s)) members := by
  cases value with
  | none => rfl
  | some s => exact readMembers_cons hfield hunset rfl members

end Record

theorem Property.decode_toJson (p : Property) :
    Property.record.decode .kept p.toJson = .ok p := by
  obtain ⟨name, wireName, type, isOptional, description⟩ := p
  cases description <;> rfl

theorem EnumCase.decode_toJson (c : EnumCase) : EnumCase.record.decode .kept c.toJson = .ok c := rfl

theorem RecordType.decode_members (r : RecordType) :
    RecordType.record.decode .kept (.object r.members) = .ok r := by
  obtain ⟨name, sourceName, description, properties, isEquatable⟩ := r
  have hproperties : asList (Property.record.decode .kept)
      (.list (properties.map Property.toJson)) = .ok properties :=
    asList_map Property.decode_toJson properties
  rw [Record.decode, members, readMembers_cons rfl rfl rfl, List.append_assoc,
    readMembers_textMember rfl rfl, readMembers_textMember rfl (by cases sourceName <;> rfl)]
  -- The draft is known only once it is known which of the two texts are there.
  cases sourceName <;> cases description <;>
    rw [readMembers_cons rfl rfl (congrArg (Except.map _) hproperties),
      readMembers_cons rfl rfl rfl] <;> rfl

theorem EnumType.decode_members (e : EnumType) :
    EnumType.record.decode .kept (.object e.members) = .ok e := by
  obtain ⟨name, sourceName, description, cases⟩ := e
  have hcases : asList (EnumCase.record.decode .kept) (.list (cases.map EnumCase.toJson)) =
      .ok cases := asList_map EnumCase.decode_toJson cases
  rw [Record.decode, members, readMembers_cons rfl rfl rfl, List.append_assoc,
    readMembers_textMember rfl rfl, readMembers_textMember rfl (by cases sourceName <;> rfl)]
  cases sourceName <;> cases description <;>
    rw [readMembers_cons rfl rfl (congrArg (Except.map _) hcases)] <;> rfl

/-- **The members of a declaration give it back.** -/
theorem Declaration.ofContent_members (d : Declaration) :
    ofContent d.kind (.object d.members) = .ok d := by
  cases d with
  | record r => exact congrArg (Except.map Declaration.record) r.decode_members
  | enum e => exact congrArg (Except.map Declaration.enum) e.decode_members

/-! ### Reading what is written -/

theorem mem_textMember {name : String} {value : Option String} {member : String × Json} :
    member ∈ textMember name value ↔ ∃ s ∈ value, member = (name, .text s) := by
  cases value <;> simp [textMember]

theorem Property.readable_toJson (p : Property) (depth : Nat) : Readable (depth + 1) p.toJson := by
  refine .object ?_
  simp only [List.forall_mem_append, List.forall_mem_cons, List.not_mem_nil, false_imp_iff,
    implies_true, and_true]
  refine ⟨⟨.text _, .text _, .text _, .bool _⟩, fun member hmember => ?_⟩
  obtain ⟨s, -, rfl⟩ := mem_textMember.1 hmember
  exact .text s

theorem EnumCase.readable_toJson (c : EnumCase) (depth : Nat) : Readable (depth + 1) c.toJson := by
  refine .object ?_
  simp only [List.forall_mem_cons, List.not_mem_nil, false_imp_iff, implies_true, and_true]
  exact ⟨.text _, .text _⟩

theorem readable_map {α : Type} {toJson : α → Json} {depth : Nat}
    (h : ∀ a, Readable depth (toJson a)) (as : List α) :
    Readable (depth + 1) (.list (as.map toJson)) := .list (List.forall_mem_map.2 fun a _ => h a)

/-- **The values of a declaration can be read**, where containers may nest twice. -/
theorem Declaration.readable_members (d : Declaration) (depth : Nat) :
    ∀ member ∈ d.members, member.1 ≠ "kind" ∧ Readable (depth + 2) member.2 := by
  have htext : ∀ (name : String) (value : Option String), name ≠ "kind" →
      ∀ member ∈ textMember name value, member.1 ≠ "kind" ∧ Readable (depth + 2) member.2 := by
    intro name value hname member hmember
    obtain ⟨s, -, rfl⟩ := mem_textMember.1 hmember
    exact ⟨hname, .text s⟩
  cases d with
  | record r =>
    simp only [members, RecordType.members, List.forall_mem_cons, List.forall_mem_append]
    exact ⟨⟨by decide, .text _⟩, ⟨htext _ _ (by decide), htext _ _ (by decide)⟩,
      ⟨by decide, readable_map (fun p => p.readable_toJson depth) _⟩, ⟨by decide, .bool _⟩,
      List.forall_mem_nil _⟩
  | enum e =>
    simp only [members, EnumType.members, List.forall_mem_cons, List.forall_mem_append]
    exact ⟨⟨by decide, .text _⟩, ⟨htext _ _ (by decide), htext _ _ (by decide)⟩,
      ⟨by decide, readable_map (fun c => c.readable_toJson depth) _⟩, List.forall_mem_nil _⟩

/-- A declaration can be read where containers may nest three times. -/
theorem Declaration.readable_toJson (d : Declaration) (depth : Nat) :
    Readable (depth + 3) d.toJson := by
  rw [toJson_eq]
  refine .object (List.forall_mem_cons.2 ⟨.text _, fun member hmember => ?_⟩)
  exact (d.readable_members depth member hmember).2

end ApiModels
