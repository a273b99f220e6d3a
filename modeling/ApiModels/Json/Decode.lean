import ApiModels.Json.Mismatch

/-!
# Typed values from JSON values

Decoders take a JSON value and give a typed value or the first mismatch, in the order in which the
value is held. A record is read from an object, whose members may come in any order and of which
unknown ones are ignored, or from the list of its fields in their declared order (`Record.decode`).

The value is either a document of its own or content that was kept until its kind was known; the
two differ in few words (`Holder`).
-/

namespace ApiModels.Json

/-- How the value that is decoded is held. -/
inductive Holder where
  /-- A document of its own. -/
  | document
  /-- Content that was kept until its kind was known. -/
  | kept
  deriving DecidableEq, Repr

/-- A decoder of a type. -/
abbrev Decoder (α : Type) := Json → Except Mismatch α

/-! ### Simple values -/

/-- A string. -/
def asText : Decoder String
  | .text s => .ok s
  | v => .error (.wrongType (found v) "a string")

/-- A boolean. -/
def asBool : Decoder Bool
  | .bool b => .ok b
  | v => .error (.wrongType (found v) "a boolean")

/-- A natural number below a bound; `what` names the kind of number. -/
def asNatBelow (bound : Nat) (what : String) : Decoder Nat
  | .number (.int i) =>
    if 0 ≤ i ∧ i < bound then .ok i.toNat else .error (.wrongValue (.integer i) what)
  | v => .error (.wrongType (found v) what)

/-- A value that may be left open by `null`. -/
def asOption {α : Type} (decode : Decoder α) : Decoder (Option α)
  | .null => .ok none
  | v => (decode v).map some

/-- The items of a list, in their order. -/
def asItems {α : Type} (decode : Decoder α) : List Json → Except Mismatch (List α)
  | [] => .ok []
  | item :: items => do
    let first ← decode item
    let rest ← asItems decode items
    return first :: rest

/-- A list. -/
def asList {α : Type} (decode : Decoder α) : Decoder (List α)
  | .list items => asItems decode items
  | v => .error (.wrongType (found v) "a sequence")

/-- What stands for nothing: `null`, and in kept content also the empty object. -/
def asNothing (holder : Holder) : Decoder Unit
  | .null => .ok ()
  | .object [] => if holder = .kept then .ok () else .error (.wrongType .map "unit")
  | v => .error (.wrongType (found v) "unit")

/-- One of several names. -/
def variantOf {α : Type} (known : List (String × α)) (name : String) : Except Mismatch α :=
  match known.lookup name with
  | some a => .ok a
  | none => .error (.unknownVariant name (known.map (·.1)))

/-- One of several names, as a string or as the only member of an object. -/
def asVariant {α : Type} (holder : Holder) (known : List (String × α)) : Decoder α
  | .text s => variantOf known s
  | .object [(name, v)] => do
    let a ← variantOf known name
    asNothing holder v
    return a
  | .object _ => .error (.wrongValue .map "map with a single key")
  | v => .error (.wrongType (found v) "string or map")

/-! ### Records -/

/-- A field of a record that is read into a draft `σ`. -/
structure Field (σ : Type) where
  /-- The name of the member. -/
  name : String
  /-- Whether the draft has the field already. -/
  isSet : σ → Bool
  /-- Reads the field into the draft. -/
  set : σ → Decoder σ
  /-- Whether the field may be missing when the fields are given in order. -/
  isOptional : Bool

/-- A field that must be there, held in a draft as an option. -/
def requiredField {σ α : Type} (name : String) (get : σ → Option α) (put : σ → α → σ)
    (decode : Decoder α) : Field σ where
  name := name
  isSet draft := (get draft).isSome
  set draft v := (decode v).map (put draft)
  isOptional := false

/-- A field that may be missing or `null`, held in a draft as an option of its value. -/
def optionalField {σ α : Type} (name : String) (get : σ → Option (Option α))
    (put : σ → Option α → σ) (decode : Decoder α) : Field σ where
  name := name
  isSet draft := (get draft).isSome
  set draft v := (asOption decode v).map (put draft)
  isOptional := true

/-- A field with a default, which the draft holds from the start. -/
def defaultField {σ α : Type} (name : String) (put : σ → α → σ) (decode : Decoder α) :
    Field σ where
  name := name
  isSet _ := false
  set draft v := (decode v).map (put draft)
  isOptional := true

/-- A record type: its fields in declared order and how a draft becomes a record. -/
structure Record (σ α : Type) where
  /-- The name of the type in messages. -/
  name : String
  /-- The draft without any field. -/
  blank : σ
  /-- The fields in declared order. -/
  fields : List (Field σ)
  /-- The record of a draft, or the first field that is missing. -/
  finish : σ → Except Mismatch α

namespace Record

variable {σ α : Type}

/-- The type in words. -/
def what (r : Record σ α) : String := "struct " ++ r.name

/-- The number of elements in words. -/
def elements (n : Nat) : String := toString n ++ (if n = 1 then " element" else " elements")

/-- The field with a name. -/
def field? (r : Record σ α) (name : String) : Option (Field σ) :=
  r.fields.find? (·.name == name)

/-- Reads the members of an object into a draft. -/
def readMembers (r : Record σ α) : σ → List (String × Json) → Except Mismatch σ
  | draft, [] => .ok draft
  | draft, (name, v) :: members =>
    match r.field? name with
    | none => readMembers r draft members
    | some field =>
      if field.isSet draft then .error (.duplicateField name)
      else do
        let draft ← field.set draft v
        readMembers r draft members

/-- The mismatch of a list with too few items. -/
def tooShort (r : Record σ α) (length : Nat) : Mismatch :=
  .wrongLength length (r.what ++ " with " ++ elements r.fields.length)

/-- Reads the fields from the items of a list, from the field with the given index on, and gives
the items that are left. -/
def readItems (r : Record σ α) :
    Nat → List (Field σ) → σ → List Json → Except Mismatch (σ × List Json)
  | _, [], draft, items => .ok (draft, items)
  | i, field :: fields, draft, [] =>
    if field.isOptional then readItems r (i + 1) fields draft []
    else .error (r.tooShort i)
  | i, field :: fields, draft, item :: items => do
    let draft ← field.set draft item
    readItems r (i + 1) fields draft items

/-- The mismatch of a list with too many items. -/
def tooLong (holder : Holder) (length expected : Nat) : Mismatch :=
  match holder with
  | .document => .wrongLength length "fewer elements in array"
  | .kept => .wrongLength length (elements expected ++ " in sequence")

/-- A record from an object or from the list of its fields. -/
def decode (r : Record σ α) (holder : Holder) : Decoder α
  | .object members => do
    let draft ← r.readMembers r.blank members
    r.finish draft
  | .list items => do
    let (draft, rest) ← r.readItems 0 r.fields r.blank items
    let record ← r.finish draft
    if rest.isEmpty then return record
    throw (tooLong holder items.length r.fields.length)
  | v => .error (.wrongType (found v) r.what)

end Record

/-- The value of a field that must be there. -/
def required {α : Type} (name : String) : Option α → Except Mismatch α
  | some a => .ok a
  | none => .error (.missingField name)

end ApiModels.Json
