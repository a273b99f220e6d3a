import ApiModels.Swift.Recovery

/-!
# Declarations of an artifact

The text of an artifact is a structured snapshot or Swift source; a snapshot starts with a brace.
A broken snapshot is an error; from a source without declarations none are recovered.
-/

namespace ApiModels

/-- The form in which an artifact holds its declarations. -/
inductive ArtifactFormat where
  | structured
  | swiftText
  deriving DecidableEq, Repr

/-- The name of a form. -/
def ArtifactFormat.name : ArtifactFormat → String
  | .structured => "structured"
  | .swiftText => "swift_text"

/-- The form of an artifact's text. -/
def ArtifactFormat.ofText (s : String) : ArtifactFormat :=
  match Text.trimStart s.toList with
  | '\x7b' :: _ => .structured
  | _ => .swiftText

/-- The declarations of a text in the given form. -/
def readDeclarations (format : ArtifactFormat) (s : String) : Except Malformation DeclarationMap :=
  match format with
  | .structured => (Snapshot.read s).map Snapshot.toMap
  | .swiftText => .ok (.ofList (Swift.declarations s))

/-- The declarations of a text, and the form in which it holds them. -/
def loadDeclarations (s : String) : Except Malformation (ArtifactFormat × DeclarationMap) :=
  let format := ArtifactFormat.ofText s
  (readDeclarations format s).map fun map => (format, map)

end ApiModels
