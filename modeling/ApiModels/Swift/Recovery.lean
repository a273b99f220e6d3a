import ApiModels.Snapshot
import ApiModels.Swift.LineForm
import ApiModels.Swift.Scanner
import ApiModels.Swift.Source
import ApiModels.Text.Lines

/-!
# Declarations from Swift source

The declarations of a source are recovered line by line. The depth of braces tells where a line
stands: at depth 0 types are opened, at depth 1 stand the properties or cases of the open type, and
at depth 2 only those of a nested `CodingKeys` count, which give the names in the data. A type is
complete when the depth is 0 again. Whatever is not understood is skipped.
-/

namespace ApiModels.Swift

/-- A type whose body is being read. -/
structure OpenType where
  opening : TypeOpening
  /-- The doc lines before it. -/
  docs : List (List Char)
  properties : List Property
  cases : List EnumCase
  /-- The names in the data by identifier; the newest first. -/
  wireNames : List (String × String)
  deriving DecidableEq, Repr

/-- A list of doc lines as a description. -/
def description? (docs : List (List Char)) : Option String :=
  let text := Text.join [' '] docs
  if text.isEmpty then none else some (String.ofList text)

namespace OpenType

/-- The source that the first doc line names. -/
def sourceName (t : OpenType) : Option (List Char) :=
  t.docs.head?.bind fun text => (sourceAfter? modelHeader text).or (sourceAfter? enumHeader text)

/-- The doc lines without one that names the source. -/
def descriptionLines (t : OpenType) : List (List Char) :=
  if t.sourceName.isSome then t.docs.drop 1 else t.docs

/-- A property with the name in the data that was given for its identifier. -/
def withWireName (t : OpenType) (p : Property) : Property :=
  match t.wireNames.lookup p.name with
  | some wireName => { p with wireName := wireName }
  | none => p

/-- Whether the type conforms to equality. -/
def isEquatable (t : OpenType) : Bool :=
  t.opening.conformances.any fun c => c == "Equatable".toList || c == "Hashable".toList

/-- The declaration of a type that is complete. -/
def toDeclaration (t : OpenType) : Declaration :=
  let name := String.ofList t.opening.name
  let sourceName := t.sourceName.map String.ofList
  let description := description? t.descriptionLines
  match t.opening.kind with
  | .enum => .enum ⟨name, sourceName, description, t.cases⟩
  | .struct =>
    .record ⟨name, sourceName, description, t.properties.map t.withWireName, t.isEquatable⟩

end OpenType

/-! ### Lines -/

/-- Where the recovery stands between two lines. -/
structure Recovery where
  /-- The declarations that are complete, the newest first. -/
  complete : List Declaration
  /-- How many braces are open. -/
  depth : Nat
  /-- The doc lines that wait for a declaration or property. -/
  docs : List (List Char)
  /-- The type whose body is being read. -/
  opened : Option OpenType
  /-- The name of the type nested in it at depth 2. -/
  nested : Option (List Char)
  deriving DecidableEq, Repr

namespace Recovery

/-- Before the first line. -/
def start : Recovery := ⟨[], 0, [], none, none⟩

/-- A line outside of any type: it may open one. -/
def topLevel (r : Recovery) (code : List Char) : Recovery :=
  match typeOpening? code with
  | some opening => { r with opened := some ⟨opening, r.docs, [], [], []⟩ }
  | none => r

/-- The enumeration case of an item; without a literal it stands for its own name. -/
def enumCase (item : CaseItem) : EnumCase :=
  ⟨String.ofList item.identifier, String.ofList (item.value.getD item.identifier)⟩

/-- The property of a line, with the doc lines before it. -/
def declaredProperty (docs : List (List Char)) (p : DeclaredProperty) : Property where
  name := String.ofList p.name
  wireName := String.ofList p.name
  type := String.ofList p.type
  isOptional := p.isOptional
  description := description? docs

/-- A type with what a line of its body declares. -/
def addMember (docs : List (List Char)) (code : List Char) (t : OpenType) : OpenType :=
  match t.opening.kind with
  | .struct =>
    match property? code with
    | some p => { t with properties := t.properties ++ [declaredProperty docs p] }
    | none => t
  | .enum => { t with cases := t.cases ++ (lineCases code).map enumCase }

/-- A line in the body of the open type: it may open a nested type or declare a member. -/
def typeBody (r : Recovery) (code : List Char) : Recovery :=
  match typeOpening? code with
  | some opening => { r with nested := some opening.name }
  | none => { r with opened := r.opened.map (addMember r.docs code) }

/-- A type with the names in the data that a line of its coding keys gives. -/
def addWireNames (code : List Char) (t : OpenType) : OpenType :=
  let pairs := (lineCases code).map fun item => ((enumCase item).identifier, (enumCase item).value)
  { t with wireNames := pairs.reverse ++ t.wireNames }

/-- A line in the body of a nested type. -/
def nestedBody (r : Recovery) (code : List Char) : Recovery :=
  if r.nested = some codingKeys.toList then
    { r with opened := r.opened.map (addWireNames code) }
  else r

/-- What a line of code declares, by the depth at its start. -/
def declare (r : Recovery) (code : List Char) : Recovery :=
  match r.depth with
  | 0 => r.topLevel code
  | 1 => r.typeBody code
  | 2 => r.nestedBody code
  | _ => r

/-- Completes the open type. -/
def completeType (r : Recovery) : Recovery :=
  match r.opened with
  | some t => { r with complete := t.toDeclaration :: r.complete, opened := none }
  | none => r

/-- Moves on to the depth after a line of code. -/
def move (r : Recovery) (code : List Char) : Recovery :=
  let depth := (r.depth + depthChange code).toNat
  let moved := { r with
    depth := depth
    docs := []
    nested := if depth < 2 then none else r.nested }
  if depth = 0 then moved.completeType else moved

/-- Takes up one line. -/
def line (r : Recovery) (text : List Char) : Recovery :=
  match docText? text with
  | some doc => { r with docs := r.docs ++ [doc] }
  | none =>
    let code := dropComment text
    if Text.allBlank code then r else (r.declare code).move code

/-- The declarations in their order; a type that is still open at the end counts. -/
def finish (r : Recovery) : List Declaration := r.completeType.complete.reverse

end Recovery

/-- The declarations of a Swift source, in their order. -/
def declarations (source : String) : List Declaration :=
  ((Text.lines source.toList).foldl Recovery.line .start).finish

end ApiModels.Swift
