import ApiModels.Keyed.Entries

/-!
# Declarations

A declaration is a record with properties or an enumeration with cases. It has the name of the
generated type and, where it is known, the name of the schema that it comes from.
-/

namespace ApiModels

/-- A property of a record. -/
structure Property where
  /-- The identifier, without any escape. -/
  name : String
  /-- The name in the data. -/
  wireName : String
  /-- The type without the mark of a property that may be absent. -/
  type : String
  isOptional : Bool
  description : Option String
  deriving DecidableEq, Repr

/-- A record declaration. -/
structure RecordType where
  name : String
  /-- The schema that the record comes from. -/
  sourceName : Option String
  description : Option String
  properties : List Property
  /-- Whether all its properties can be compared. -/
  isEquatable : Bool
  deriving DecidableEq, Repr

/-- A case of an enumeration. -/
structure EnumCase where
  identifier : String
  /-- The literal in the data. -/
  value : String
  deriving DecidableEq, Repr

/-- An enumeration declaration. -/
structure EnumType where
  name : String
  /-- The schema, or the schema and property, that the enumeration comes from. -/
  sourceName : Option String
  description : Option String
  cases : List EnumCase
  deriving DecidableEq, Repr

/-- A generated declaration. -/
inductive Declaration where
  | record (type : RecordType)
  | enum (type : EnumType)
  deriving DecidableEq, Repr

/-- The kinds of declarations. -/
inductive DeclarationKind where
  | struct
  | enum
  deriving DecidableEq, Repr

/-- The names of the kinds. -/
def DeclarationKind.known : List (String × DeclarationKind) :=
  [("struct", .struct), ("enum", .enum)]

/-- The name of a kind. -/
def DeclarationKind.name : DeclarationKind → String
  | .struct => "struct"
  | .enum => "enum"

/-- The type as it is declared, with the mark of a property that may be absent. -/
def Property.renderedType (mark : String) (p : Property) : String :=
  if p.isOptional then p.type ++ mark else p.type

namespace RecordType

/-- The first property with a name. -/
def property? (r : RecordType) (name : String) : Option Property :=
  r.properties.find? (·.name == name)

/-- Whether some identifier differs from the name in the data. -/
def needsWireNames (r : RecordType) : Bool := r.properties.any fun p => p.name != p.wireName

end RecordType

namespace Declaration

/-- The name of the declared type. -/
def name : Declaration → String
  | .record type => type.name
  | .enum type => type.name

/-- The kind of a declaration. -/
def kind : Declaration → DeclarationKind
  | .record _ => .struct
  | .enum _ => .enum

/-- The schema that a declaration comes from. -/
def sourceName : Declaration → Option String
  | .record type => type.sourceName
  | .enum type => type.sourceName

/-- The record of a record declaration. -/
def record? : Declaration → Option RecordType
  | .record type => some type
  | .enum _ => none

/-- The enumeration of an enumeration declaration. -/
def enum? : Declaration → Option EnumType
  | .enum type => some type
  | .record _ => none

end Declaration

/-- Declarations by the name of their type. -/
abbrev DeclarationMap := Keyed Declaration

/-- The declarations by name; the first one with a name counts. -/
def DeclarationMap.ofList (declarations : List Declaration) : DeclarationMap :=
  Keyed.ofList (declarations.map fun d => (d.name, d))

end ApiModels
