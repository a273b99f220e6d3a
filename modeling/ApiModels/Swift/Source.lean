import ApiModels.Compilation.Basic
import ApiModels.Swift.Literal

/-!
# Swift source of declarations

The source consists of lines, and each kind of line has one function that writes it: doc lines,
the opening line of a type, properties and cases. A record whose identifiers differ from the names
in the data has a nested enumeration `CodingKeys` that pairs them.
-/

namespace ApiModels.Swift

/-- The lines of a text, each ended by a line feed. -/
def unlines (lines : List (List Char)) : List Char := lines.flatMap (· ++ ['\n'])

/-- The name of the nested enumeration of names in the data. -/
def codingKeys : String := "CodingKeys"

/-- What starts the first doc line of a record that comes from a schema. -/
def modelHeader : String := "Generated model for"

/-- What starts the first doc line of an enumeration that comes from a schema. -/
def enumHeader : String := "Generated enum for"

/-! ### Lines -/

/-- A doc line. -/
def docLine (indent : Nat) (text : String) : List Char :=
  List.replicate indent ' ' ++ "/// ".toList ++ text.toList

/-- The doc line that names a source. -/
def sourceLine (header source : String) : List Char :=
  docLine 0 (header ++ " " ++ source)

/-- The line that opens a type. -/
def openingLine (keyword name : String) (conformances : List String) : List Char :=
  "public ".toList ++ keyword.toList ++ ' ' :: name.toList ++ ": ".toList ++
    (String.intercalate ", " conformances).toList ++ " \x7b".toList

/-- The line that closes a type. -/
def closingLine : List Char := ['\x7d']

/-- The line of a property. -/
def propertyLine (profile : RenderProfile) (p : Property) : List Char :=
  "    public let ".toList ++ (profile.identifier p.name).toList ++ ": ".toList ++
    (p.renderedType profile.optionalMark).toList

/-- The line of a case that stands for its own name. -/
def plainCaseLine (indent : Nat) (profile : RenderProfile) (identifier : String) : List Char :=
  List.replicate indent ' ' ++ "case ".toList ++ (profile.identifier identifier).toList

/-- The line of a case that stands for a literal. -/
def literalCaseLine (indent : Nat) (profile : RenderProfile) (identifier value : String) :
    List Char :=
  plainCaseLine indent profile identifier ++ " = \"".toList ++ escape value.toList ++ ['"']

/-! ### Declarations -/

/-- The doc lines of a type. -/
def docLines (header : String) (source description : Option String) : List (List Char) :=
  (source.map (sourceLine header)).toList ++ (description.map (docLine 0)).toList

/-- The lines of an enumeration. -/
def enumLines (profile : RenderProfile) (e : EnumType) : List (List Char) :=
  docLines enumHeader e.sourceName e.description ++
    [openingLine "enum" e.name profile.enumConformances] ++
    e.cases.map (fun c => literalCaseLine 4 profile c.identifier c.value) ++
    [closingLine]

/-- The lines of a property: its description, the property and a blank line. -/
def propertyLines (profile : RenderProfile) (p : Property) : List (List Char) :=
  (p.description.map (docLine 4)).toList ++ [propertyLine profile p, []]

/-- The case of a property among the names in the data. -/
def codingKeyLine (profile : RenderProfile) (p : Property) : List Char :=
  if p.name = p.wireName then plainCaseLine 8 profile p.name
  else literalCaseLine 8 profile p.name p.wireName

/-- The line that opens the nested enumeration of names in the data. -/
def codingKeysOpening : List Char :=
  "    private enum ".toList ++ codingKeys.toList ++ ": String, CodingKey \x7b".toList

/-- The lines of the nested enumeration of names in the data. -/
def codingKeysLines (profile : RenderProfile) (properties : List Property) : List (List Char) :=
  [codingKeysOpening] ++ properties.map (codingKeyLine profile) ++ ["    \x7d".toList, []]

/-- The conformances of a record. -/
def recordConformances (profile : RenderProfile) (r : RecordType) : List String :=
  if r.isEquatable then profile.equatableConformances else profile.codableConformances

/-- The lines of a record. -/
def recordLines (profile : RenderProfile) (r : RecordType) : List (List Char) :=
  docLines modelHeader r.sourceName r.description ++
    [openingLine "struct" r.name (recordConformances profile r)] ++
    r.properties.flatMap (propertyLines profile) ++
    (if r.needsWireNames then codingKeysLines profile r.properties else []) ++
    [closingLine]

/-- The lines of a declaration. -/
def declarationLines (profile : RenderProfile) : Declaration → List (List Char)
  | .enum e => enumLines profile e
  | .record r => recordLines profile r

/-! ### Sources -/

/-- The lines that every source starts with. -/
def headerLines : List (List Char) :=
  ["// Generated Swift Models from OpenAPI Specification".toList,
    "// DO NOT EDIT: This file is automatically generated".toList, [],
    "import Foundation".toList, []]

/-- The source of one declaration. -/
def declarationSource (profile : RenderProfile) (d : Declaration) : String :=
  String.ofList (unlines (declarationLines profile d))

/-- The lines of a source: the header, and each declaration with a blank line after it. -/
def sourceLines (profile : RenderProfile) (declarations : List Declaration) :
    List (List Char) :=
  headerLines ++ declarations.flatMap fun d => declarationLines profile d ++ [[]]

/-- The source of declarations. -/
def source (profile : RenderProfile) (declarations : List Declaration) : String :=
  String.ofList (unlines (sourceLines profile declarations))

end ApiModels.Swift

namespace ApiModels

/-- The source in the language of the profile. -/
def CompiledModels.source (m : CompiledModels) : String :=
  match m.profile.language with
  | .swift => Swift.source m.profile m.declarations

end ApiModels
