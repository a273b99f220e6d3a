import ApiModels.Compilation.Context
import ApiModels.FieldType

/-!
# The type of a property

The type of a property is found by a walk from its shape: an array steps to its items, a reference
to an alias steps to the shape of that schema, if this walk has not followed it before. The walk
stops at a type, or at an enumeration that is declared in line; what it found is wrapped in as many
sequences as it passed arrays.
-/

namespace ApiModels

/-- Where a walk stops. -/
inductive WalkEnd where
  | type (type : FieldType)
  /-- An enumeration that is written in the property itself. -/
  | inlineEnum (values : List String)

/-- A walk: where it stops and the number of arrays that it passed. -/
structure Walk where
  arrays : Nat
  stop : WalkEnd

/-- A walk that stops at a type at once. -/
def Walk.at (type : FieldType) : Walk := ⟨0, .type type⟩

/-- The type of a scalar with a format. -/
def ScalarType.fieldType (type : ScalarType) (format : Option String) : FieldType :=
  match type, format with
  | .string, some "date-time" => .timestamp
  | .string, some "uri" => .locator
  | .string, _ => .text
  | .integer, some "int64" => .int64
  | .integer, _ => .int
  | .number, some "float" => .float
  | .number, _ => .double
  | .boolean, _ => .bool

namespace CompileContext

variable (ctx : CompileContext)

/-- The schemas that a walk has not followed. -/
def unfollowed (followed : List String) : List String :=
  (ctx.shapes.map (·.1)).filter (· ∉ followed)

theorem length_unfollowed_cons_lt {followed : List String} {name : String} {shape : Shape}
    (hname : ctx.shapes.lookup name = some shape) (hnew : name ∉ followed) :
    (ctx.unfollowed (name :: followed)).length < (ctx.unfollowed followed).length := by
  have heq : ctx.unfollowed (name :: followed) = (ctx.unfollowed followed).filter (· ≠ name) := by
    simp only [unfollowed, List.filter_filter]
    exact List.filter_congr fun x _ => by simp [not_or]
  have hmem : name ∈ ctx.shapes.map (·.1) := by
    obtain ⟨before, after, heq, _⟩ := List.lookup_eq_some_iff.1 hname
    simp [heq]
  rw [heq]
  exact List.length_filter_lt_length_iff_exists.2
    ⟨name, List.mem_filter.2 ⟨hmem, by simp [hnew]⟩, by simp⟩

/-- The walk from a shape, after the given schemas have been followed. -/
def walk (followed : List String) : Shape → Walk
  | .primitive type format => .at (type.fieldType format)
  | .array items =>
    let rest := walk followed items
    { rest with arrays := rest.arrays + 1 }
  | .enumeration values => if followed.isEmpty then ⟨0, .inlineEnum values⟩ else .at .text
  | .reference target =>
    match h : ctx.shapes.lookup target with
    | none => .at .placeholder
    | some shape =>
      if shape.isDeclared then .at ((ctx.ownedName? target).elim .placeholder .named)
      else if hnew : target ∈ followed then .at .placeholder
      else
        have := ctx.length_unfollowed_cons_lt h hnew
        walk (target :: followed) shape
  | _ => .at .placeholder
termination_by shape => ((ctx.unfollowed followed).length, sizeOf shape)

end CompileContext

end ApiModels
