import ApiModels.Change.Severity
import ApiModels.Declaration.Basic
import ApiModels.Json.Basic
import ApiModels.Settings.Basic

/-!
# Differences between declarations

Two sets of declarations are compared by the names of types, and those of common types by the names
of their members. A property whose type has changed counts as removed with its old type and added
with its new one. The severity follows from which lists are empty.
-/

namespace ApiModels

/-- What has changed between two sets of declarations. -/
structure Diff where
  addedTypes : List String
  removedTypes : List String
  /-- Types that were a record and are an enumeration, or the other way round. -/
  changedKinds : List String
  addedMembers : List String
  removedMembers : List String
  severity : Severity
  deriving DecidableEq, Repr

/-- What has changed among the members of types. -/
structure MemberDiff where
  added : List String
  removed : List String
  deriving DecidableEq, Repr

namespace MemberDiff

/-- Nothing has changed. -/
def empty : MemberDiff := ⟨[], []⟩

/-- The changes of all, one after the other. -/
def concat (changes : List MemberDiff) : MemberDiff :=
  ⟨changes.flatMap (·.added), changes.flatMap (·.removed)⟩

end MemberDiff

/-- The names of one list that another does not have, in ascending order. -/
def namesOnlyIn (names others : List String) : List String :=
  (nameSet names).filter (!others.contains ·)

/-- The names that two lists share, in ascending order. -/
def commonNames (names others : List String) : List String :=
  (nameSet names).filter (others.contains ·)

/-! ### Members -/

/-- The property names of a record. -/
def RecordType.propertyNames (r : RecordType) : List String := r.properties.map (·.name)

/-- The case identifiers of an enumeration. -/
def EnumType.identifiers (e : EnumType) : List String := e.cases.map (·.identifier)

/-- A property in a list of members. -/
def memberEntry (type property : String) : String := type ++ "." ++ property

/-- A property with its type in a list of members. -/
def typedEntry (type property propertyType : String) : String :=
  memberEntry type property ++ ":" ++ propertyType

/-- A case in a list of members. -/
def caseEntry (type identifier : String) : String := type ++ ".case." ++ identifier

/-- The change of the type of a common property. -/
def typeChange (mark : String) (old new : RecordType) (name : String) : MemberDiff :=
  match old.property? name, new.property? name with
  | some before, some after =>
    let oldType := before.renderedType mark
    let newType := after.renderedType mark
    if oldType = newType then .empty
    else ⟨[typedEntry old.name name newType], [typedEntry old.name name oldType]⟩
  | _, _ => .empty

/-- The changes of a record. -/
def recordDiff (mark : String) (old new : RecordType) : MemberDiff :=
  let oldNames := old.propertyNames
  let newNames := new.propertyNames
  let named : MemberDiff :=
    ⟨(namesOnlyIn newNames oldNames).map (memberEntry old.name),
      (namesOnlyIn oldNames newNames).map (memberEntry old.name)⟩
  .concat (named :: (commonNames oldNames newNames).map (typeChange mark old new))

/-- The changes of an enumeration. -/
def enumDiff (old new : EnumType) : MemberDiff :=
  ⟨(namesOnlyIn new.identifiers old.identifiers).map (caseEntry old.name),
    (namesOnlyIn old.identifiers new.identifiers).map (caseEntry old.name)⟩

/-- The changes among the members of a declaration; none if its kind has changed. -/
def declarationDiff (mark : String) : Declaration → Declaration → MemberDiff
  | .record old, .record new => recordDiff mark old new
  | .enum old, .enum new => enumDiff old new
  | _, _ => .empty

/-! ### Declarations -/

/-- The severity of changes. -/
def classify (addedTypes removedTypes changedKinds addedMembers removedMembers : List String) :
    Severity :=
  if !removedTypes.isEmpty || !changedKinds.isEmpty || !removedMembers.isEmpty then .major
  else if !addedTypes.isEmpty || !addedMembers.isEmpty then .minor
  else .patch

/-- The declarations of the types that two sets share, in ascending order of their names. -/
def commonDeclarations (old new : DeclarationMap) : List (String × Declaration × Declaration) :=
  old.entries.filterMap fun (name, before) => (new.get? name).map fun after => (name, before, after)

/-- The changes from one set of declarations to another. -/
def diff (profile : RenderProfile) (old new : DeclarationMap) : Diff :=
  let common := commonDeclarations old new
  let members := MemberDiff.concat (common.map fun (_, before, after) =>
    declarationDiff profile.optionalMark before after)
  let addedTypes := new.keys.filter (!old.contains ·)
  let removedTypes := old.keys.filter (!new.contains ·)
  let changedKinds := (common.filter fun (_, before, after) =>
    before.kind != after.kind).map (·.1)
  { addedTypes := addedTypes
    removedTypes := removedTypes
    changedKinds := changedKinds
    addedMembers := members.added
    removedMembers := members.removed
    severity := classify addedTypes removedTypes changedKinds members.added members.removed }

namespace Diff

/-- Whether there are structural changes. -/
def hasChanges (d : Diff) : Bool := d.severity != .patch

/-- The members of the JSON value, in their order. -/
def jsonMembers (d : Diff) : List (String × Json) :=
  [("added_types", .ofTexts d.addedTypes), ("removed_types", .ofTexts d.removedTypes),
    ("changed_type_kind", .ofTexts d.changedKinds), ("added_members", .ofTexts d.addedMembers),
    ("removed_members", .ofTexts d.removedMembers), ("semver", .text d.severity.name)]

/-- The changes as a JSON value. -/
def toJson (d : Diff) : Json := .object d.jsonMembers

end Diff

end ApiModels
