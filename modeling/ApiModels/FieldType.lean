import ApiModels.Settings.Basic

/-!
# Types of properties

A field type is the type of a property before it is rendered in a target language.
-/

namespace ApiModels

/-- The type of a property. -/
inductive FieldType where
  | text
  | timestamp
  | locator
  | int
  | int64
  | double
  | float
  | bool
  | sequence (item : FieldType)
  /-- A generated declaration, by its name. -/
  | named (name : String)
  /-- A value whose structure is not described. -/
  | placeholder
  deriving DecidableEq, Repr, Inhabited

namespace FieldType

/-- The type in the target language. -/
def render (p : RenderProfile) : FieldType → String
  | .text => p.types.string
  | .timestamp => p.types.datetime
  | .locator => p.types.uri
  | .int => p.types.integer
  | .int64 => p.types.int64
  | .double => p.types.number
  | .float => p.types.float
  | .bool => p.types.boolean
  | .sequence item => p.listOf (item.render p)
  | .named name => name
  | .placeholder => p.types.any

/-- Whether values of the type hold something whose structure is not described. -/
def hasPlaceholder : FieldType → Bool
  | .placeholder => true
  | .sequence item => item.hasPlaceholder
  | _ => false

/-- The declaration that the type is built from. -/
def named? : FieldType → Option String
  | .named name => some name
  | .sequence item => item.named?
  | _ => none

/-- The type in that many sequences. -/
def inSequences : Nat → FieldType → FieldType
  | 0, t => t
  | n + 1, t => .sequence (inSequences n t)

@[simp] theorem named?_inSequences (n : Nat) (t : FieldType) :
    (inSequences n t).named? = t.named? := by
  induction n with
  | zero => rfl
  | succ n ih => exact ih

end FieldType

end ApiModels
