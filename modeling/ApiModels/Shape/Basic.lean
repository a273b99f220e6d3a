import ApiModels.Json.Printer
import ApiModels.Reference.Basic

/-!
# Shapes of schemas

The shape of a schema is what it says about the structure of data, without any names or types of a
target language. `Shape.detect` looks at, in this order, a reference, the alternatives of `anyOf`
and `oneOf`, the members of `allOf` of which a single one stands for the whole, and the type with
what belongs to it.
-/

namespace ApiModels

/-- The scalar types of JSON schemas. -/
inductive ScalarType where
  | string
  | integer
  | number
  | boolean
  deriving DecidableEq, Repr

/-- The names of the scalar types. -/
def ScalarType.known : List (String × ScalarType) :=
  [("string", .string), ("integer", .integer), ("number", .number), ("boolean", .boolean)]

/-- The name of a scalar type. -/
def ScalarType.name : ScalarType → String
  | .string => "string"
  | .integer => "integer"
  | .number => "number"
  | .boolean => "boolean"

/-- A property of an object, whose shape is of type `σ`. -/
structure PropertyShape (σ : Type) where
  /-- The name in the data. -/
  name : String
  /-- Whether the object lists it as required. -/
  isRequired : Bool
  /-- The description of its schema. -/
  description : Option String
  /-- The shape of its schema. -/
  shape : σ
  deriving DecidableEq, Repr

/-- The shape of a schema. -/
inductive Shape where
  | primitive (type : ScalarType) (format : Option String)
  | object (properties : List (PropertyShape Shape))
  | array (items : Shape)
  /-- Literals as texts. -/
  | enumeration (values : List String)
  | reference (target : String)
  | union (alternatives : List Shape)
  /-- A schema that is not supported, with the reason. -/
  | unknown (description : String)
  deriving Inhabited, Repr

namespace Shape

/-- A word for the kind of shape. -/
def label : Shape → String
  | .primitive .. => "primitive"
  | .object .. => "object"
  | .array .. => "array"
  | .enumeration .. => "enumeration"
  | .reference .. => "reference"
  | .union .. => "union"
  | .unknown .. => "unknown"

/-! ### Parts of the detection -/

/-- The shape of a schema with the given `$ref`. -/
def ofReference (pointer : Json) : Shape :=
  match pointer.text?.bind Reference.schemaName? with
  | some target => .reference target
  | none => .unknown ("unsupported reference " ++ pointer.compact)

/-- The items of a member that is a list. -/
def listMember? (members : List (String × Json)) (name : String) : Option (List Json) :=
  (members.lookup name).bind Json.items?

/-- The members of a member that is an object. -/
def objectMember? (members : List (String × Json)) (name : String) :
    Option (List (String × Json)) :=
  (members.lookup name).bind Json.members?

/-- The alternatives of a schema. -/
def alternatives? (members : List (String × Json)) : Option (List Json) :=
  (listMember? members "anyOf").or (listMember? members "oneOf")

/-- The type that a schema declares. -/
inductive DeclaredType where
  | one (name : String)
  /-- A list of types that is not one type and `null`. -/
  | several (names : List String)
  | unsupported (type : Json)

/-- The declared type; without one it follows from whether there are properties. -/
def declaredType (members : List (String × Json)) : DeclaredType :=
  match members.lookup "type" with
  | none => .one (if (members.lookup "properties").isSome then "object" else "string")
  | some (.text name) => .one name
  | some (.list types) =>
    match (types.filterMap Json.text?).filter (· ≠ "null") with
    | [name] => .one name
    | names => .several names
  | some other => .unsupported other

/-- The literals of an enumeration as texts; `null` is none of them. -/
def literals (values : List Json) : List String :=
  values.filterMap fun
    | .null => none
    | .text s => some s
    | value => some value.compact

/-- The shape of the scalar type with that name. -/
def scalar (name : String) (format : Option String) : Shape :=
  match ScalarType.known.lookup name with
  | some type => .primitive type format
  | none => .unknown ("unsupported type `" ++ name ++ "`")

/-- What an array without items contains. -/
def noItems : Shape := .unknown "array without items"

/-- The shape of a schema that has nothing but a type. -/
def bare (name : String) : Shape :=
  if name = "object" then .object []
  else if name = "array" then .array noItems
  else scalar name none

/-- The names that an object lists as required. -/
def requiredNames (members : List (String × Json)) : List String :=
  ((listMember? members "required").getD []).filterMap Json.text?

/-- A property whose schema has the given shape. -/
def property (required : List String) (name : String) (schema : Json) (shape : Shape) :
    PropertyShape Shape :=
  ⟨name, required.contains name, (schema.get? "description").bind Json.text?, shape⟩

/-! ### Sizes -/

theorem sizeOf_lookup_lt {members : List (String × Json)} {name : String} {value : Json}
    (h : members.lookup name = some value) : sizeOf value < sizeOf members := by
  induction members with
  | nil => cases h
  | cons member members ih =>
    obtain ⟨key, other⟩ := member
    rw [List.lookup_cons] at h
    simp only [List.cons.sizeOf_spec, Prod.mk.sizeOf_spec]
    split at h
    · cases h; omega
    · have := ih h; omega

theorem sizeOf_listMember?_lt {members : List (String × Json)} {name : String}
    {items : List Json} (h : listMember? members name = some items) :
    sizeOf items < sizeOf members := by
  obtain ⟨value, hvalue, hitems⟩ := Option.bind_eq_some_iff.1 h
  have hlt := sizeOf_lookup_lt hvalue
  cases value <;> simp [Json.items?] at hitems
  subst hitems
  simp only [Json.list.sizeOf_spec] at hlt
  omega

theorem sizeOf_objectMember?_lt {members : List (String × Json)} {name : String}
    {inner : List (String × Json)} (h : objectMember? members name = some inner) :
    sizeOf inner < sizeOf members := by
  obtain ⟨value, hvalue, hinner⟩ := Option.bind_eq_some_iff.1 h
  have hlt := sizeOf_lookup_lt hvalue
  cases value <;> simp [Json.members?] at hinner
  subst hinner
  simp only [Json.object.sizeOf_spec] at hlt
  omega

theorem sizeOf_alternatives?_lt {members : List (String × Json)} {items : List Json}
    (h : alternatives? members = some items) : sizeOf items < sizeOf members := by
  rcases Option.or_eq_some_iff.1 h with h | ⟨_, h⟩ <;> exact sizeOf_listMember?_lt h

theorem sizeOf_snd_lt {members : List (String × Json)} {name : String} {value : Json}
    (h : (name, value) ∈ members) : sizeOf value < sizeOf members := by
  have := List.sizeOf_lt_of_mem h
  simp only [Prod.mk.sizeOf_spec] at this
  omega

/-! ### Detection -/

/-- The shape of a schema. -/
def detect : Json → Shape
  | .object members =>
    match members.lookup "$ref" with
    | some pointer => ofReference pointer
    | none =>
      match _ : alternatives? members with
      | some alternatives => .union (alternatives.attach.map fun ⟨schema, _⟩ => detect schema)
      | none =>
        match _ : listMember? members "allOf" with
        | some [single] => detect single
        | some schemas => .union (schemas.attach.map fun ⟨schema, _⟩ => detect schema)
        | none =>
          match declaredType members with
          | .unsupported type => .unknown ("unsupported type " ++ type.compact)
          | .several names => .union (names.map bare)
          | .one name =>
            let values := literals ((listMember? members "enum").getD [])
            if name = "string" ∧ !values.isEmpty then .enumeration values
            else if name = "object" then
              match _ : objectMember? members "properties" with
              | none => .object []
              | some properties =>
                .object (properties.attach.map fun ⟨(key, schema), _⟩ =>
                  property (requiredNames members) key schema (detect schema))
            else if name = "array" then
              match _ : members.lookup "items" with
              | none => .array noItems
              | some items => .array (detect items)
            else scalar name ((members.lookup "format").bind Json.text?)
  | _ => .unknown "schema is not an object"
termination_by schema => sizeOf schema
decreasing_by
  all_goals simp only [Json.object.sizeOf_spec]
  · have := sizeOf_alternatives?_lt ‹alternatives? members = some alternatives›
    have := List.sizeOf_lt_of_mem ‹schema ∈ alternatives›
    omega
  · have := sizeOf_listMember?_lt ‹listMember? members "allOf" = some [single]›
    simp only [List.cons.sizeOf_spec, List.nil.sizeOf_spec] at this
    omega
  · have := sizeOf_listMember?_lt ‹listMember? members "allOf" = some schemas›
    have := List.sizeOf_lt_of_mem ‹schema ∈ schemas›
    omega
  · have := sizeOf_objectMember?_lt ‹objectMember? members "properties" = some properties›
    have := sizeOf_snd_lt ‹(key, schema) ∈ properties›
    omega
  · have := sizeOf_lookup_lt ‹members.lookup "items" = some items›
    omega

end Shape

end ApiModels
