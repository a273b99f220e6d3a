import ApiModels.Compilation.Basic
import ApiModels.Files.Basic
import ApiModels.Malformation
import ApiModels.Settings.Loading
import ApiModels.Version.Basic

/-!
# Failures

Whatever can go wrong on the way from files to files, in one type.
-/

namespace ApiModels

/-- Why an operation failed. -/
inductive Failure where
  | malformed (malformation : Malformation)
  | unresolved (reference : UnresolvedReference)
  | badVersion (input : String) (fault : VersionFault)
  | file (fault : FileFault)
  | unserialized (fault : SerializeFault)
  | settings (fault : SettingsFault)
  deriving DecidableEq, Repr

/-- The words for an unresolved reference. -/
def UnresolvedReference.message (r : UnresolvedReference) : String :=
  "schema '" ++ r.source ++ "' references missing schema '" ++ r.target ++ "'"

/-- The words for a failure: its kind and what is wrong. -/
def Failure.message : Failure → String
  | .malformed malformation => "Malformed input: " ++ malformation.message
  | .unresolved reference => "Unresolvable reference: " ++ reference.message
  | .badVersion input fault => "Invalid version: " ++ input ++ ": " ++ fault.message
  | .file fault => "IO error: " ++ fault.message
  | .unserialized fault => "JSON error: " ++ fault.message
  | .settings fault => "Configuration error: " ++ fault.message

/-- The words for a failure and for what caused it, if that is known. -/
def Failure.explanation (f : Failure) : String :=
  match f with
  | .file fault => f.message ++ ": " ++ fault.message
  | .unserialized fault => f.message ++ ": " ++ fault.message
  | _ => f.message

/-- Reads a version. -/
def readVersion (s : String) : Except Failure Version := (Version.read s).mapError (.badVersion s)

end ApiModels
