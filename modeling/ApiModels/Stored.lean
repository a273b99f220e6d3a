import ApiModels.Document
import ApiModels.Failure
import ApiModels.Swift.Loading

/-!
# Stored documents and artifacts

Documents are files with JSON text. The file of an artifact may have a structured snapshot beside
it (`snapshotPath`); for an artifact in source form the declarations are then those of the snapshot.
-/

namespace ApiModels

/-- The text of a file. -/
def storedText (files : Files) (path : String) : Except Failure String :=
  (files.readText path).mapError .file

/-- Loads a document. What is wrong with its text is told with the path. -/
def Document.load (files : Files) (path : String) : Except Failure Document := do
  let s ← storedText files path
  (Document.read s).mapError fun malformation => .malformed (.inFile path malformation)

/-- Writes the pretty text of a document to a file. -/
def Document.save (d : Document) (files : Files) (path : String) : Except Failure Files := do
  let text ← d.serialize.mapError .unserialized
  (files.writeText path text).mapError .file

/-! ### Artifacts -/

/-- A generated artifact. -/
structure Artifact where
  /-- The text of its file. -/
  text : String
  /-- The form from which the declarations were read. -/
  format : ArtifactFormat
  declarations : DeclarationMap

namespace Artifact

/-- The path of the snapshot beside an artifact. -/
def snapshotPath (path : String) : String := path ++ ".snapshot.json"

/-- The text from which the declarations of an artifact are read. -/
def declarationText (files : Files) (path text : String) : Except Failure String :=
  if ArtifactFormat.ofText text = .swiftText ∧ files.isFile (snapshotPath path) then
    storedText files (snapshotPath path)
  else .ok text

/-- Loads an artifact. -/
def load (files : Files) (path : String) : Except Failure Artifact := do
  let text ← storedText files path
  let (format, declarations) ←
    (loadDeclarations (← declarationText files path text)).mapError .malformed
  return ⟨text, format, declarations⟩

/-- Whether nothing was recognized in the text of an artifact. -/
def isUnrecognized (a : Artifact) : Bool := a.format = .swiftText && a.declarations.entries.isEmpty

end Artifact

end ApiModels
