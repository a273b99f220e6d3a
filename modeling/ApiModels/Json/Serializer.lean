import ApiModels.Json.Printer

/-!
# Serializing values

The serializer is given a value part by part. It refuses a key that does not become the name of a
member, and a value that is no object where it is put into an object or gets a tag. What it makes of
all else is a `Json` value that is printed. A value that is one already is not refused
(`Json.serialize_eq_ok`).
-/

namespace ApiModels

/-- Why the serializer refuses a value. -/
inductive SerializeFault where
  | keyNotText
  /-- What is put into an object is no object itself. -/
  | notFlattened (found : String)
  /-- What gets a tag is no object. -/
  | notTagged (type variant found : String)
  deriving DecidableEq, Repr

/-- The words for a fault. -/
def SerializeFault.message : SerializeFault → String
  | .keyNotText => "key must be a string"
  | .notFlattened found => "can only flatten structs and maps (got " ++ found ++ ")"
  | .notTagged type variant found =>
    "cannot serialize tagged newtype variant " ++ type ++ "::" ++ variant ++ " containing " ++ found

namespace Json

/-! ### Parts of objects -/

/-- The members that a value brings into an object, or what it is instead. -/
def parts : Json → Except String (List (String × Json))
  | .object members => .ok members
  | .null => .ok []
  | .bool _ => .error "a boolean"
  | .number (.int _) => .error "an integer"
  | .number (.float _) => .error "a float"
  | .text _ => .error "a string"
  | .list _ => .error "a sequence"

/-- The members of a value that is put into an object. -/
def flatten (value : Json) : Except SerializeFault (List (String × Json)) :=
  value.parts.mapError .notFlattened

/-- An object with its variant of a type first, which stands in the member `kind`. -/
def tagged (type variant : String) (kind : String) (value : Json) : Except SerializeFault Json := do
  let members ← value.parts.mapError (.notTagged type variant)
  return .object (("kind", .text kind) :: members)

/-! ### Keys -/

/-- The name of a member with the given key. -/
def memberName : Json → Except SerializeFault String
  | .text s => .ok s
  | .bool b => .ok (toString b)
  | .number n => .ok (String.ofList (numberText n))
  | .null | .list _ | .object _ => .error .keyNotText

mutual

/-- A value with its keys as names of members. -/
def named : Json → Except SerializeFault Json
  | .list items => do return .list (← namedItems items)
  | .object members => do return .object (← namedMembers members)
  | value => .ok value

/-- Items with their keys as names of members. -/
def namedItems : List Json → Except SerializeFault (List Json)
  | [] => .ok []
  | item :: items => do return (← named item) :: (← namedItems items)

/-- Members with their keys as names. -/
def namedMembers : List (String × Json) → Except SerializeFault (List (String × Json))
  | [] => .ok []
  | (key, value) :: members => do
    return (← memberName (.text key), ← named value) :: (← namedMembers members)

end

mutual

theorem named_eq_ok : (value : Json) → named value = .ok value
  | .null | .bool _ | .number _ | .text _ => by simp only [named]
  | .list items => by
    rw [named, namedItems_eq_ok items]
    rfl
  | .object members => by
    rw [named, namedMembers_eq_ok members]
    rfl

theorem namedItems_eq_ok : (items : List Json) → namedItems items = .ok items
  | [] => rfl
  | item :: items => by
    rw [namedItems, named_eq_ok item, namedItems_eq_ok items]
    rfl

theorem namedMembers_eq_ok :
    (members : List (String × Json)) → namedMembers members = .ok members
  | [] => rfl
  | (key, value) :: members => by
    rw [namedMembers, named_eq_ok value, namedMembers_eq_ok members]
    rfl

end

/-- The text of a value, printed in the given way. -/
def serialize (print : Json → String) (value : Json) : Except SerializeFault String :=
  value.named.map print

/-- **A JSON value is not refused.** -/
theorem serialize_eq_ok (print : Json → String) (value : Json) :
    value.serialize print = .ok (print value) := by
  rw [serialize, named_eq_ok]
  rfl

end Json

end ApiModels
