import ApiModels.Json.Decode
import ApiModels.Json.Skip

/-!
# Typed values from JSON text

A typed value can be read from the text itself, without the JSON value in between. Its faults then
have a place, and the first one in the order of the text counts, whether it is in the text or in the
type. `Reading.read` reads a record of which each field has a reader of its own.
-/

namespace ApiModels.Json

/-- A value that is no container, decoded; of a container only the bracket is looked at. -/
def scalar {α : Type} (fuel : Nat) (decode : Decoder α) : Reader α := fun cs =>
  match skipSpaces cs with
  | '[' :: rest =>
    match decode (.list []) with
    | .error m => .error (.misfit m ('[' :: rest))
    | .ok _ => .error (.next .expectedValue ('[' :: rest))
  | '{' :: rest =>
    match decode (.object []) with
    | .error m => .error (.misfit m ('{' :: rest))
    | .ok _ => .error (.next .expectedValue ('{' :: rest))
  | cs => do
    let (v, rest) ← readValue fuel 0 cs
    match decode v with
    | .ok a => return (a, rest)
    | .error m => throw (.misfit m rest)

/-- A field that is read from the text into a draft. -/
structure ReadingField (σ : Type) where
  /-- The name of the member. -/
  name : String
  /-- Whether the draft has the field already. -/
  isSet : σ → Bool
  /-- Reads the field into the draft. -/
  set : σ → Reader σ

/-- A record type that is read from text. -/
structure Reading (σ α : Type) where
  /-- The name of the type in messages. -/
  name : String
  /-- The draft without any field. -/
  blank : σ
  /-- The fields in declared order. -/
  fields : List (ReadingField σ)
  /-- The record of a draft, or the first field that is missing. -/
  finish : σ → Except Mismatch α

namespace Reading

variable {σ α : Type}

/-- Reads the member with the given name into the draft, or skips it if it is unknown. -/
def readMember (r : Reading σ α) (draft : σ) (name : String) (cs : List Char) :
    Except Fault (σ × List Char) :=
  match r.fields.find? (·.name == name) with
  | none => do
    let rest ← colon cs
    return (draft, ← skipValue rest)
  | some field =>
    if field.isSet draft then .error (.pending (.duplicateField name) cs)
    else do
      let rest ← colon cs
      field.set draft rest

/-- The start of the next item of a list, if there is one. -/
def nextItem (isFirst : Bool) (cs : List Char) : Except Fault (Option (List Char)) :=
  match skipSpaces cs, isFirst with
  | [], _ => .error (.here .endInList [])
  | ']' :: _, _ => .ok none
  | cs, true => .ok (some cs)
  | ',' :: rest, false =>
    match skipSpaces rest with
    | [] => .error (.here .endInValue [])
    | ']' :: rest => .error (.next .trailingComma (']' :: rest))
    | rest => .ok (some rest)
  | cs, false => .error (.next .expectedListCommaOrEnd cs)

/-- The end of a list from which all fields have been read. -/
def listEnd (cs : List Char) : Except Fault (List Char) :=
  match skipSpaces cs with
  | [] => .error (.here .endInList [])
  | ']' :: rest => .ok rest
  | ',' :: rest =>
    match skipSpaces rest with
    | ']' :: rest => .error (.next .trailingComma (']' :: rest))
    | rest => .error (.next .trailingCharacters rest)
  | rest => .error (.next .trailingCharacters rest)

/-- Reads the fields from the items of a list, from the field with the given index on. -/
def readItems (r : Reading σ α) :
    Nat → List (ReadingField σ) → σ → List Char → Except Fault (σ × List Char)
  | _, [], draft, cs => .ok (draft, cs)
  | i, field :: fields, draft, cs => do
    match ← nextItem (i == 0) cs with
    | none =>
      throw (.pending (.wrongLength i
        ("struct " ++ r.name ++ " with " ++ Record.elements r.fields.length)) cs)
    | some cs =>
      let (draft, rest) ← field.set draft cs
      readItems r (i + 1) fields draft rest

/-- A record from the text of an object or of the list of its fields. -/
def read (r : Reading σ α) (fuel : Nat) (depth : Nat) : Reader α := fun cs =>
  match skipSpaces cs with
  | '{' :: rest =>
    if depth = 0 then .error (.next .nestedTooDeep ('{' :: rest))
    else do
      let (draft, rest) ← objectMembers r.readMember fuel true r.blank rest
      match r.finish draft with
      | .ok record => return (record, rest)
      | .error m => throw (.misfit m rest)
  | '[' :: rest =>
    if depth = 0 then .error (.next .nestedTooDeep ('[' :: rest))
    else
      match r.readItems 0 r.fields r.blank rest with
      | .error fault => .error fault.settleList
      | .ok (draft, rest) => do
        match r.finish draft with
        | .ok record => return (record, ← listEnd rest)
        | .error m => throw (Fault.settleList (.pending m rest))
  | cs => scalar fuel (fun v => .error (.wrongType (found v) ("struct " ++ r.name))) cs

end Reading

/-- A list of which each item is read from the text. -/
def readList {α : Type} (item : Reader α) (fuel : Nat) (depth : Nat) : Reader (List α) :=
  fun cs =>
    match skipSpaces cs with
    | '[' :: rest =>
      if depth = 0 then .error (.next .nestedTooDeep ('[' :: rest))
      else do
        let (items, rest) ← listItems
          (fun items cs => do
            let (a, rest) ← item cs
            return (a :: items, rest))
          fuel true [] rest
        return (items.reverse, rest)
    | cs => scalar fuel (fun v => .error (.wrongType (found v) "a sequence")) cs

/-- Reads a whole text with a reader. -/
def readTyped {α : Type} (reader : Reader α) (s : String) : Except LocatedFault α :=
  let cs := s.toList
  (do let (result, rest) ← reader cs
      finish result rest : Except Fault α).mapError (Fault.locate cs)

end ApiModels.Json
