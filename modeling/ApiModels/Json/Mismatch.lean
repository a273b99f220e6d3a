import ApiModels.Json.Printer
import ApiModels.Text.Quoted

/-!
# Values that do not fit

A typed value is read from a JSON value of the right shape. `Mismatch` says what is wrong with one
that has another shape: `Found` is what stood there, and the expectation is given in words.
-/

namespace ApiModels.Json

/-- What stood where something else was expected. -/
inductive Found where
  | null
  | bool (value : Bool)
  | integer (value : Int)
  | float (value : Number.Binary64)
  | text (value : String)
  | map
  | sequence
  deriving DecidableEq, Repr

/-- What a value is, for a message about it. -/
def found : Json → Found
  | .null => .null
  | .bool b => .bool b
  | .number (.int i) => .integer i
  | .number (.float x) => .float x
  | .text s => .text s
  | .list _ => .sequence
  | .object _ => .map

/-- The words for what was found; numbers as JSON text writes them. -/
def Found.message : Found → String
  | .null => "null"
  | .bool b => "boolean `" ++ toString b ++ "`"
  | .integer i => "integer `" ++ String.ofList (Number.intDigits i) ++ "`"
  | .float x => "floating point `" ++ String.ofList (floatLayout.write x) ++ "`"
  | .text s => "string " ++ Text.quoted s
  | .map => "map"
  | .sequence => "sequence"

/-- What keeps a JSON value from being a value of some type. -/
inductive Mismatch where
  | wrongType (found : Found) (expected : String)
  | wrongValue (found : Found) (expected : String)
  | wrongLength (length : Nat) (expected : String)
  | unknownVariant (name : String) (known : List String)
  | missingField (name : String)
  | duplicateField (name : String)
  deriving DecidableEq, Repr

/-- A list of alternatives in words. -/
def alternatives : List String → String
  | [] => "no variants"
  | [a] => "`" ++ a ++ "`"
  | [a, b] => "`" ++ a ++ "` or `" ++ b ++ "`"
  | more => "one of " ++ String.intercalate ", " (more.map fun a => "`" ++ a ++ "`")

/-- The words for a mismatch. -/
def Mismatch.message : Mismatch → String
  | .wrongType found expected =>
    "invalid type: " ++ found.message ++ ", expected " ++ expected
  | .wrongValue found expected =>
    "invalid value: " ++ found.message ++ ", expected " ++ expected
  | .wrongLength length expected =>
    "invalid length " ++ toString length ++ ", expected " ++ expected
  | .unknownVariant name known =>
    "unknown variant `" ++ name ++ "`, expected " ++ alternatives known
  | .missingField name => "missing field `" ++ name ++ "`"
  | .duplicateField name => "duplicate field `" ++ name ++ "`"

end ApiModels.Json
