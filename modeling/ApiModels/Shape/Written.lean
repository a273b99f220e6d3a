import ApiModels.Shape.Basic

/-!
# Shapes as JSON

A shape is written as an object with its kind first, then what the kind has; a format or
description that is absent is left out. `Shape.ofJson?` reads such objects back.
-/

namespace ApiModels.Shape

/-- A member that is left out if there is no value. -/
def optionalMember (name : String) (value : Option String) : List (String × Json) :=
  match value with
  | none => []
  | some s => [(name, .text s)]

/-- An object with its kind first. -/
def tagged (kind : String) (members : List (String × Json)) : Json :=
  .object (("kind", .text kind) :: members)

mutual

/-- The JSON value of a shape. -/
def toJson : Shape → Json
  | .primitive type format =>
    tagged "primitive" (("primitive", .text type.name) :: optionalMember "format" format)
  | .object properties => tagged "object" [("properties", .list (propertiesJson properties))]
  | .array items => tagged "array" [("items", toJson items)]
  | .enumeration values => tagged "enumeration" [("values", .ofTexts values)]
  | .reference target => tagged "reference" [("target", .text target)]
  | .union alternatives => tagged "union" [("alternatives", .list (alternativesJson alternatives))]
  | .unknown description => tagged "unknown" [("description", .text description)]

/-- The JSON values of alternatives. -/
def alternativesJson : List Shape → List Json
  | [] => []
  | shape :: shapes => toJson shape :: alternativesJson shapes

/-- The JSON values of properties. -/
def propertiesJson : List (PropertyShape Shape) → List Json
  | [] => []
  | ⟨name, isRequired, description, shape⟩ :: properties =>
    .object ([("name", .text name), ("required", .bool isRequired)] ++
      optionalMember "description" description ++ [("shape", toJson shape)]) ::
      propertiesJson properties

end

/-- A text that may be absent. -/
def optionalText? (members : List (String × Json)) (name : String) : Option (Option String) :=
  match members.lookup name with
  | none => some none
  | some value => value.text?.map some

mutual

/-- The shape of a JSON value. -/
def ofJson? : Json → Option Shape
  | .object members => do
    let kind ← (members.lookup "kind").bind Json.text?
    if kind = "primitive" then
      let type ← (members.lookup "primitive").bind Json.text?
      return .primitive (← ScalarType.known.lookup type) (← optionalText? members "format")
    else if kind = "enumeration" then
      return .enumeration (← (← listMember? members "values").mapM Json.text?)
    else if kind = "reference" then
      return .reference (← (members.lookup "target").bind Json.text?)
    else if kind = "unknown" then
      return .unknown (← (members.lookup "description").bind Json.text?)
    else ofMembers? kind members
  | _ => none

/-- The shape with parts whose kind is given, from the member that holds the parts. -/
def ofMembers? (kind : String) : List (String × Json) → Option Shape
  | [] => none
  | (name, value) :: members =>
    match value with
    | .list items =>
      if kind = "object" ∧ name = "properties" then (propertyList? items).map .object
      else if kind = "union" ∧ name = "alternatives" then (shapeList? items).map .union
      else ofMembers? kind members
    | value =>
      if kind = "array" ∧ name = "items" then (ofJson? value).map .array
      else ofMembers? kind members

/-- The shapes of a list of JSON values. -/
def shapeList? : List Json → Option (List Shape)
  | [] => some []
  | value :: values => do return (← ofJson? value) :: (← shapeList? values)

/-- The properties of a list of JSON values. -/
def propertyList? : List Json → Option (List (PropertyShape Shape))
  | [] => some []
  | .object members :: values => do
    let name ← (members.lookup "name").bind Json.text?
    let isRequired ← match members.lookup "required" with
      | some (.bool b) => some b
      | _ => none
    let description ← optionalText? members "description"
    let shape ← memberShape? members
    return ⟨name, isRequired, description, shape⟩ :: (← propertyList? values)
  | _ :: _ => none

/-- The shape in the member `shape`. -/
def memberShape? : List (String × Json) → Option Shape
  | [] => none
  | (name, value) :: members => if name = "shape" then ofJson? value else memberShape? members

end

end ApiModels.Shape
