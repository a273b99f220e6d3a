import ApiModels.Json.Basic
import ApiModels.Text.Blank

/-!
# References to schemas

A reference is an object with a string `$ref`; it names a schema of the components, with the two
escapes of JSON pointers. `Json.references` collects the names under a value in the order of the
walk, each with the kind of place at which it was found. A reference is not looked into.
-/

namespace ApiModels

/-- Where in a schema a reference stands. -/
inductive ReferenceSite where
  /-- In place of the schema itself. -/
  | schema
  /-- Under `properties`. -/
  | property
  /-- Under `items`. -/
  | items
  /-- Under `anyOf`, `oneOf` or `allOf`. -/
  | union
  /-- Under `additionalProperties`. -/
  | additionalProperties
  deriving DecidableEq, Repr

/-- The site that a member of that name starts. -/
def ReferenceSite.ofMember? (name : String) : Option ReferenceSite :=
  if name = "properties" then some .property
  else if name = "items" then some .items
  else if name = "anyOf" || name = "oneOf" || name = "allOf" then some .union
  else if name = "additionalProperties" then some .additionalProperties
  else none

namespace Reference

/-- What every reference to a schema starts with. -/
def root : List Char := "#/components/schemas/".toList

/-- A pointer token with its escapes resolved. -/
def unescape (token : List Char) : List Char :=
  Text.replaceAll ['~', '0'] ['~'] (Text.replaceAll ['~', '1'] ['/'] token)

/-- The name of the schema that a reference points to. -/
def schemaName? (reference : String) : Option String :=
  match Text.after? root reference.toList with
  | none => none
  | some token =>
    if token.isEmpty || token.contains '/' then none else some (String.ofList (unescape token))

/-- The string of a reference among the members of an object. -/
def of? (members : List (String × Json)) : Option String :=
  (members.lookup "$ref").bind Json.text?

end Reference

namespace Json

mutual

/-- The schema names referenced under a value that stands at the given site. -/
def referencesAt (site : ReferenceSite) : Json → List (String × ReferenceSite)
  | .object members =>
    match Reference.of? members with
    | some reference => (Reference.schemaName? reference).toList.map (·, site)
    | none => memberReferences site members
  | .list items => itemReferences site items
  | _ => []

/-- The schema names referenced under the items of a list. -/
def itemReferences (site : ReferenceSite) : List Json → List (String × ReferenceSite)
  | [] => []
  | item :: items => referencesAt site item ++ itemReferences site items

/-- The schema names referenced under the members of an object. -/
def memberReferences (site : ReferenceSite) : List (String × Json) → List (String × ReferenceSite)
  | [] => []
  | (name, value) :: members =>
    referencesAt ((ReferenceSite.ofMember? name).getD site) value ++
      memberReferences site members

end

/-- The schema names referenced under a value, in the order of the walk. -/
def references (value : Json) : List (String × ReferenceSite) := value.referencesAt .schema

/-- The names alone. -/
def referenceNames (value : Json) : List String := value.references.map (·.1)

end Json

end ApiModels
