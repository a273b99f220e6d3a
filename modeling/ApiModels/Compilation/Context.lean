import ApiModels.Naming
import ApiModels.Reference.Graph
import ApiModels.Shape.Equality

/-!
# Schemas that own a declaration

Every schema has a role by its shape: an enumeration and an object with properties are declared, all
else is an alias of a type. A declared schema owns the declaration of its type name, unless an
earlier schema has the same type name; then it is skipped.
-/

namespace ApiModels

/-- What a schema is compiled to. -/
inductive SchemaRole where
  | enum (values : List String)
  | record (properties : List (PropertyShape Shape))
  /-- No declaration; the schema stands for a type. -/
  | alias

/-- The role of a schema with the shape. -/
def Shape.role : Shape → SchemaRole
  | .enumeration values => .enum values
  | .object [] => .alias
  | .object properties => .record properties
  | _ => .alias

/-- Whether a schema with the shape is declared. -/
def Shape.isDeclared (shape : Shape) : Bool :=
  match shape.role with
  | .alias => false
  | _ => true

/-- A schema with the declaration that it owns. -/
structure Owner where
  /-- The name of the schema. -/
  schema : String
  /-- The name of the declared type. -/
  typeName : String
  shape : Shape

instance : DecidableEq Owner := fun a b =>
  decidable_of_iff (a.schema = b.schema ∧ a.typeName = b.typeName ∧ a.shape = b.shape) <| by
    cases a
    cases b
    simp only [Owner.mk.injEq]

/-- The owners among schemas, given in ascending order, without those whose type name is taken. -/
def ownersAmong (typeName : String → String) (taken : List String) :
    List (String × Shape) → List Owner
  | [] => []
  | (schema, shape) :: schemas =>
    let name := typeName schema
    if shape.isDeclared && !taken.contains name then
      ⟨schema, name, shape⟩ :: ownersAmong typeName (name :: taken) schemas
    else ownersAmong typeName taken schemas

/-- What a compilation looks things up in. -/
structure CompileContext where
  settings : Settings
  graph : ReferenceGraph
  /-- The schemas in ascending order, with their shapes. -/
  shapes : List (String × Shape)
  /-- The schemas that own a declaration, in ascending order. -/
  owners : List Owner

namespace CompileContext

/-- The context of a document. -/
def ofGraph (graph : ReferenceGraph) (settings : Settings) : CompileContext :=
  let shapes := graph.schemas.map fun (name, schema) => (name, Shape.detect schema)
  ⟨settings, graph, shapes, ownersAmong settings.naming.typeName [] shapes⟩

/-- The type name of a schema that owns its declaration. -/
def ownedName? (ctx : CompileContext) (schema : String) : Option String :=
  (ctx.owners.find? (·.schema == schema)).map (·.typeName)

end CompileContext

end ApiModels
