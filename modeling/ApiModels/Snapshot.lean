import ApiModels.Checksum
import ApiModels.Declaration.Written
import ApiModels.Json.Typed
import ApiModels.Malformation

/-!
# Snapshots

A snapshot is the structured form of a generated artifact: a list of declarations with the version
of the format. It is written as JSON text and read back from it. The reader buffers the members of a
declaration until it knows the kind, so a mismatch inside a declaration is found only after it.
-/

namespace ApiModels

open Json

/-- A list of declarations with the version of the format. -/
structure Snapshot where
  formatVersion : Nat
  declarations : List Declaration
  deriving DecidableEq, Repr

namespace Snapshot

/-- The newest version of the format. -/
def newestVersion : Nat := 1

/-- The snapshot of declarations in the newest version. -/
def ofDeclarations (declarations : List Declaration) : Snapshot := ⟨newestVersion, declarations⟩

/-- The declarations by name; the first one with a name counts. -/
def toMap (s : Snapshot) : DeclarationMap := .ofList s.declarations

/-! ### Writing -/

/-- The snapshot as a JSON value. -/
def toJson (s : Snapshot) : Json :=
  .object [("format_version", .ofNat s.formatVersion),
    ("declarations", .list (s.declarations.map Declaration.toJson))]

/-- The text that is stored. -/
def pretty (s : Snapshot) : String := s.toJson.pretty

/-- The checksum of the compact text. -/
def checksum (s : Snapshot) : Checksum := .ofText s.toJson.compact

/-- The text of a snapshot as the serializer gives it, printed in the given way. -/
def serialize (print : Json → String) (s : Snapshot) : Except SerializeFault String := do
  let declarations ← s.declarations.mapM Declaration.serialize
  (Json.object [("format_version", .ofNat s.formatVersion),
    ("declarations", .list declarations)]).serialize print

theorem serialize_eq_ok (print : Json → String) (s : Snapshot) :
    s.serialize print = .ok (print s.toJson) := by
  have hdeclarations :
      s.declarations.mapM Declaration.serialize = .ok (s.declarations.map Declaration.toJson) := by
    induction s.declarations with
    | nil => rfl
    | cons d ds ih =>
      rw [List.mapM_cons, Declaration.serialize_eq_ok, ih]
      rfl
  rw [serialize, hdeclarations]
  exact Json.serialize_eq_ok _ _

/-! ### Reading -/

/-- One member of a declaration; the kind is looked at at once, all else is kept. -/
def readDeclarationMember (fuel depth : Nat)
    (draft : Option DeclarationKind × List (String × Json)) (name : String) (cs : List Char) :
    Except Fault ((Option DeclarationKind × List (String × Json)) × List Char) :=
  if name = "kind" then
    if draft.1.isSome then .error (.pending (.duplicateField name) cs)
    else do
      let (kind, rest) ← scalar fuel asKind (← colon cs)
      return ((some kind, draft.2), rest)
  else do
    let (item, rest) ← readValue fuel depth (← colon cs)
    return ((draft.1, (name, item) :: draft.2), rest)

/-- The declaration of kept content; a mismatch has no place of its own. -/
def settleDeclaration (kind : DeclarationKind) (content : Json) (rest : List Char) :
    Except Fault (Declaration × List Char) :=
  match Declaration.ofContent kind content with
  | .ok declaration => .ok (declaration, rest)
  | .error m => .error (.pending m rest)

/-- A declaration in which containers nest at most so deep. -/
def readDeclaration (fuel depth : Nat) : Reader Declaration := fun cs =>
  match skipSpaces cs, depth with
  | '{' :: rest, depth + 1 => do
    let ((kind, members), rest) ←
      objectMembers (readDeclarationMember fuel depth) fuel true (none, []) rest
    match kind with
    | none => throw (.misfit (.missingField "kind") rest)
    | some kind => settleDeclaration kind (.object members.reverse) rest
  | '[' :: rest, depth + 1 => do
    match ← Reading.nextItem true rest with
    | none => throw (Fault.settleList (.pending (.missingField "kind") rest))
    | some rest =>
      let (kind, rest) ← scalar fuel asKind rest
      let (items, rest) ← listItems
        (fun items cs => do
          let (item, rest) ← readValue fuel depth cs
          return (item :: items, rest))
        fuel false [] rest
      settleDeclaration kind (.list items.reverse) rest
  | '{' :: rest, 0 => .error (.next .nestedTooDeep ('{' :: rest))
  | '[' :: rest, 0 => .error (.next .nestedTooDeep ('[' :: rest))
  | cs, _ => scalar fuel (fun v => .error (.wrongType (found v) Declaration.what)) cs

/-- A snapshot of which fields may still be missing. -/
structure Draft where
  formatVersion : Option Nat
  declarations : Option (List Declaration)

/-- A snapshot whose values nest at most so deep. -/
def reading (fuel depth : Nat) : Reading Draft Snapshot where
  name := "Snapshot"
  blank := ⟨none, none⟩
  fields := [
    { name := "format_version"
      isSet := fun draft => draft.formatVersion.isSome
      set := fun draft cs => do
        let (version, rest) ← scalar fuel (asNatBelow (Nat.pow 2 32) "u32") cs
        return ({ draft with formatVersion := some version }, rest) },
    { name := "declarations"
      isSet := fun draft => draft.declarations.isSome
      set := fun draft cs => do
        let (declarations, rest) ← readList (readDeclaration fuel (depth - 1)) fuel depth cs
        return ({ draft with declarations := some declarations }, rest) }]
  finish draft := do
    return ⟨← required "format_version" draft.formatVersion,
      ← required "declarations" draft.declarations⟩

/-- The snapshot of a text, whatever its version. -/
def readAny (s : String) : Except LocatedFault Snapshot :=
  let fuel := s.length + 1
  readTyped ((reading fuel (maxDepth - 1)).read fuel maxDepth) s

/-- The snapshot of a text. A version that is newer than the newest one is refused. -/
def read (s : String) : Except Malformation Snapshot :=
  match readAny s with
  | .error fault => .error (.invalidSnapshot fault)
  | .ok snapshot =>
    if newestVersion < snapshot.formatVersion then
      .error (.unsupportedSnapshot snapshot.formatVersion)
    else .ok snapshot

end Snapshot

end ApiModels
