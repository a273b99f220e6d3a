import ApiModels.Compilation.Description
import ApiModels.Compilation.Equatable
import ApiModels.Compilation.Identifiers
import ApiModels.Compilation.Walk
import ApiModels.Snapshot

/-!
# Compilation

A document is compiled to declarations: first the enumerations of its schemas, then those that are
written in line in a property, then the records. Schemas are compiled in ascending order. A document
with a reference to a schema that it does not have is refused.
-/

namespace ApiModels

/-- A reference to a schema that the document does not have. -/
structure UnresolvedReference where
  /-- The schema with the reference. -/
  source : String
  /-- The name that is no schema. -/
  target : String
  deriving DecidableEq, Repr

/-- The inline enumerations so far. -/
structure InlineEnums where
  /-- The names of all declarations. -/
  taken : List String
  /-- The enumerations in the order in which they were found. -/
  enums : List EnumType

/-- The name of the enumeration that is written in line in a property. -/
def inlineName (typeName property : String) : String :=
  String.ofList ((typeName ++ pascalCase property).toList.filter Naming.isWordChar)

namespace CompileContext

variable (ctx : CompileContext)

/-- The cases of an enumeration. -/
def enumCases (values : List String) : List EnumCase :=
  (uniquify (values.map ctx.settings.render.caseName)).zipWith EnumCase.mk values

/-- The description of a schema. -/
def description (schema : String) : Option String :=
  ((ctx.graph.get? schema).bind (·.get? "description")).bind fun text =>
    text.text?.bind cleanDescription

/-! ### Properties -/

/-- The type of a property to which a walk led. An enumeration in line is declared, if its name is
free; otherwise the property is a text. -/
def settle (owner : Owner) (property : String) (inline : InlineEnums) (walk : Walk) :
    FieldType × InlineEnums :=
  match walk.stop with
  | .type type => (.inSequences walk.arrays type, inline)
  | .inlineEnum values =>
    let name := inlineName owner.typeName property
    if inline.taken.contains name then (.inSequences walk.arrays .text, inline)
    else
      let declared : EnumType :=
        { name := name
          sourceName := some (owner.schema ++ "." ++ property)
          description := none
          cases := ctx.enumCases values }
      (.inSequences walk.arrays (.named name), ⟨name :: inline.taken, inline.enums ++ [declared]⟩)

/-- The types of the properties of a record, in their order. -/
def fieldTypes (owner : Owner) (inline : InlineEnums) :
    List (PropertyShape Shape) → List FieldType × InlineEnums
  | [] => ([], inline)
  | property :: properties =>
    let (type, inline) := ctx.settle owner property.name inline (ctx.walk [] property.shape)
    let (types, inline) := fieldTypes owner inline properties
    (type :: types, inline)

/-- A property with its identifier and type. -/
def property (source : PropertyShape Shape) (name : String) (type : FieldType) : Property where
  name := name
  wireName := source.name
  type := type.render ctx.settings.render
  isOptional := !source.isRequired
  description := source.description.bind cleanDescription

/-- The properties of a record with identifiers that are distinct. -/
def properties (sources : List (PropertyShape Shape)) (types : List FieldType) : List Property :=
  let names := uniquify (sources.map fun source => memberName source.name)
  (sources.zip (names.zip types)).map fun (source, name, type) => ctx.property source name type

/-! ### Declarations -/

/-- The record of a schema with the given properties. -/
def compileRecord (owner : Owner) (sources : List (PropertyShape Shape)) (inline : InlineEnums) :
    RecordType × InlineEnums :=
  let (types, inline) := ctx.fieldTypes owner inline sources
  ({ name := owner.typeName
     sourceName := some owner.schema
     description := ctx.description owner.schema
     properties := ctx.properties sources types
     isEquatable := !types.any FieldType.hasPlaceholder }, inline)

/-- The records of owners, in their order. -/
def compileRecords (inline : InlineEnums) : List Owner → List RecordType × InlineEnums
  | [] => ([], inline)
  | owner :: owners =>
    match owner.shape.role with
    | .record sources =>
      let (record, inline) := ctx.compileRecord owner sources inline
      let (records, inline) := compileRecords inline owners
      (record :: records, inline)
    | _ => compileRecords inline owners

/-- The enumeration of a schema that is one. -/
def compileEnum? (owner : Owner) : Option EnumType :=
  match owner.shape.role with
  | .enum values => some
    { name := owner.typeName
      sourceName := some owner.schema
      description := ctx.description owner.schema
      cases := ctx.enumCases values }
  | _ => none

/-- The enumerations of the schemas. -/
def schemaEnums : List EnumType := ctx.owners.filterMap ctx.compileEnum?

/-- The records before the marks of comparability are propagated, and the inline enumerations. -/
def recordsAndInline : List RecordType × InlineEnums :=
  ctx.compileRecords ⟨ctx.owners.map (·.typeName), []⟩ ctx.owners

/-- The declarations of the schemas. -/
def declarations : List Declaration :=
  let (records, inline) := ctx.recordsAndInline
  ctx.schemaEnums.map .enum ++ inline.enums.map .enum ++
    (propagateEquatable records).map .record

end CompileContext

/-- The declarations of a document with the profile in which they are rendered. -/
structure CompiledModels where
  declarations : List Declaration
  profile : RenderProfile
  deriving DecidableEq, Repr

namespace CompiledModels

/-- The structured form. -/
def snapshot (m : CompiledModels) : Snapshot := .ofDeclarations m.declarations

/-- The number of enumerations. -/
def enumCount (m : CompiledModels) : Nat := (m.declarations.filterMap Declaration.enum?).length

/-- The number of records. -/
def recordCount (m : CompiledModels) : Nat :=
  (m.declarations.filterMap Declaration.record?).length

end CompiledModels

/-- Compiles a document, if every reference in its schemas names a schema. -/
def compile (d : Document) (settings : Settings) : Except UnresolvedReference CompiledModels :=
  let graph := ReferenceGraph.ofDocument d
  match graph.dangling with
  | (source, target) :: _ => .error ⟨source, target⟩
  | [] => .ok ⟨(CompileContext.ofGraph graph settings).declarations, settings.render⟩

end ApiModels
