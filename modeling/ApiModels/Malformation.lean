import ApiModels.Json.Fault

/-!
# Malformed input

Why a text or a value is no API description or no snapshot.
-/

namespace ApiModels

/-- What is wrong with an input. -/
inductive Malformation where
  | rootNotObject
  | pathsNotObject
  | componentsNotObject
  | schemasNotObject
  | invalidJson (fault : Json.LocatedFault)
  | invalidSnapshot (fault : Json.LocatedFault)
  | unsupportedSnapshot (version : Nat)
  /-- An input that was read from a file. -/
  | inFile (path : String) (malformation : Malformation)
  deriving DecidableEq, Repr

/-- The words for a malformed input. -/
def Malformation.message : Malformation → String
  | .rootNotObject => "document root is not an object"
  | .pathsNotObject => "`paths` is not an object"
  | .componentsNotObject => "`components` is not an object"
  | .schemasNotObject => "`components.schemas` is not an object"
  | .invalidJson fault => "invalid JSON: " ++ fault.message
  | .invalidSnapshot fault => "invalid snapshot: " ++ fault.message
  | .unsupportedSnapshot version => "unsupported snapshot format version " ++ toString version
  | .inFile path malformation => path ++ ": " ++ malformation.message

end ApiModels
