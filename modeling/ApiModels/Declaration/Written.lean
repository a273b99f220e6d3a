import ApiModels.Declaration.Basic
import ApiModels.Json.Decode
import ApiModels.Json.Serializer

/-!
# Declarations as JSON

A declaration is written as an object with its kind first and then its other members
(`Declaration.toJson_eq`); what is absent is left out. It is read from an object with its members in
any order, or from a list whose first item is the kind.
-/

namespace ApiModels

open Json

/-- A member that is left out if there is no value. -/
def textMember (name : String) : Option String → List (String × Json)
  | none => []
  | some s => [(name, .text s)]

/-! ### Writing -/

/-- A property as a JSON value. -/
def Property.toJson (p : Property) : Json :=
  .object ([("name", .text p.name), ("wire_name", .text p.wireName), ("type_expr", .text p.type),
    ("optional", .bool p.isOptional)] ++ textMember "description" p.description)

/-- An enumeration case as a JSON value. -/
def EnumCase.toJson (c : EnumCase) : Json :=
  .object [("identifier", .text c.identifier), ("value", .text c.value)]

/-- A declaration as a JSON value. -/
def Declaration.toJson : Declaration → Json
  | .record r =>
    .object ([("kind", .text "struct"), ("name", .text r.name)] ++
      textMember "source_name" r.sourceName ++ textMember "description" r.description ++
      [("properties", .list (r.properties.map Property.toJson)),
        ("equatable", .bool r.isEquatable)])
  | .enum e =>
    .object ([("kind", .text "enum"), ("name", .text e.name)] ++
      textMember "source_name" e.sourceName ++ textMember "description" e.description ++
      [("cases", .list (e.cases.map EnumCase.toJson))])

/-- The members of a record but its kind. -/
def RecordType.members (r : RecordType) : List (String × Json) :=
  ("name", .text r.name) :: (textMember "source_name" r.sourceName ++
    textMember "description" r.description ++
    [("properties", .list (r.properties.map Property.toJson)), ("equatable", .bool r.isEquatable)])

/-- The members of an enumeration but its kind. -/
def EnumType.members (e : EnumType) : List (String × Json) :=
  ("name", .text e.name) :: (textMember "source_name" e.sourceName ++
    textMember "description" e.description ++ [("cases", .list (e.cases.map EnumCase.toJson))])

/-- The members of a declaration but its kind. -/
def Declaration.members : Declaration → List (String × Json)
  | .record r => r.members
  | .enum e => e.members

theorem Declaration.toJson_eq (d : Declaration) :
    d.toJson = .object (("kind", .text d.kind.name) :: d.members) := by
  cases d with
  | record r => simp [toJson, members, RecordType.members, kind, DeclarationKind.name]
  | enum e => simp [toJson, members, EnumType.members, kind, DeclarationKind.name]

/-- A declaration as the serializer gives it: a record or an enumeration with its kind as a tag. -/
def Declaration.serialize : Declaration → Except SerializeFault Json
  | .record r => (Json.object r.members).tagged "GeneratedDeclaration" "Record" "struct"
  | .enum e => (Json.object e.members).tagged "GeneratedDeclaration" "Enum" "enum"

theorem Declaration.serialize_eq_ok (d : Declaration) : d.serialize = .ok d.toJson := by
  rw [toJson_eq]
  cases d <;> rfl

/-! ### Reading -/

/-- A property of which fields may still be missing. -/
structure PropertyDraft where
  name : Option String
  wireName : Option String
  type : Option String
  isOptional : Option Bool
  description : Option (Option String)

/-- A property. -/
def Property.record : Record PropertyDraft Property where
  name := "Property"
  blank := ⟨none, none, none, none, none⟩
  fields := [
    requiredField "name" (·.name) (fun d v => { d with name := some v }) asText,
    requiredField "wire_name" (·.wireName) (fun d v => { d with wireName := some v }) asText,
    requiredField "type_expr" (·.type) (fun d v => { d with type := some v }) asText,
    requiredField "optional" (·.isOptional) (fun d v => { d with isOptional := some v }) asBool,
    optionalField "description" (·.description) (fun d v => { d with description := some v })
      asText]
  finish d := do
    return {
      name := ← required "name" d.name
      wireName := ← required "wire_name" d.wireName
      type := ← required "type_expr" d.type
      isOptional := ← required "optional" d.isOptional
      description := d.description.join }

/-- A record of which fields may still be missing. -/
structure RecordDraft where
  name : Option String
  sourceName : Option (Option String)
  description : Option (Option String)
  properties : Option (List Property)
  isEquatable : Option Bool

/-- A record without its kind. -/
def RecordType.record : Record RecordDraft RecordType where
  name := "RecordType"
  blank := ⟨none, none, none, none, none⟩
  fields := [
    requiredField "name" (·.name) (fun d v => { d with name := some v }) asText,
    optionalField "source_name" (·.sourceName) (fun d v => { d with sourceName := some v }) asText,
    optionalField "description" (·.description) (fun d v => { d with description := some v })
      asText,
    requiredField "properties" (·.properties) (fun d v => { d with properties := some v })
      (asList (Property.record.decode .kept)),
    requiredField "equatable" (·.isEquatable) (fun d v => { d with isEquatable := some v }) asBool]
  finish d := do
    return {
      name := ← required "name" d.name
      sourceName := d.sourceName.join
      description := d.description.join
      properties := ← required "properties" d.properties
      isEquatable := ← required "equatable" d.isEquatable }

/-- An enumeration case of which fields may still be missing. -/
structure EnumCaseDraft where
  identifier : Option String
  value : Option String

/-- An enumeration case. -/
def EnumCase.record : Record EnumCaseDraft EnumCase where
  name := "EnumCase"
  blank := ⟨none, none⟩
  fields := [
    requiredField "identifier" (·.identifier) (fun d v => { d with identifier := some v }) asText,
    requiredField "value" (·.value) (fun d v => { d with value := some v }) asText]
  finish d := do return ⟨← required "identifier" d.identifier, ← required "value" d.value⟩

/-- An enumeration of which fields may still be missing. -/
structure EnumDraft where
  name : Option String
  sourceName : Option (Option String)
  description : Option (Option String)
  cases : Option (List EnumCase)

/-- An enumeration without its kind. -/
def EnumType.record : Record EnumDraft EnumType where
  name := "EnumType"
  blank := ⟨none, none, none, none⟩
  fields := [
    requiredField "name" (·.name) (fun d v => { d with name := some v }) asText,
    optionalField "source_name" (·.sourceName) (fun d v => { d with sourceName := some v }) asText,
    optionalField "description" (·.description) (fun d v => { d with description := some v })
      asText,
    requiredField "cases" (·.cases) (fun d v => { d with cases := some v })
      (asList (EnumCase.record.decode .kept))]
  finish d := do
    return {
      name := ← required "name" d.name
      sourceName := d.sourceName.join
      description := d.description.join
      cases := ← required "cases" d.cases }

/-- A kind of declaration. -/
def asKind : Decoder DeclarationKind
  | .text s => variantOf DeclarationKind.known s
  | v => .error (.wrongType (found v) "variant identifier")

namespace Declaration

/-- What a declaration is read from, in words. -/
def what : String := "internally tagged enum GeneratedDeclaration"

/-- A declaration of a known kind from the rest of its members or items. -/
def ofContent (kind : DeclarationKind) (content : Json) : Except Mismatch Declaration :=
  match kind with
  | .struct => (RecordType.record.decode .kept content).map .record
  | .enum => (EnumType.record.decode .kept content).map .enum

/-- The declaration of a JSON value. -/
def ofJson : Decoder Declaration
  | .object members => do
    let kind ← asKind (← required "kind" (members.lookup "kind"))
    ofContent kind (.object (members.filter (·.1 != "kind")))
  | .list [] => .error (.missingField "kind")
  | .list (kind :: items) => do ofContent (← asKind kind) (.list items)
  | v => .error (.wrongType (found v) what)

end Declaration

end ApiModels
