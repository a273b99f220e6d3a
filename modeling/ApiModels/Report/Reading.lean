import ApiModels.Json.Typed
import ApiModels.Report.Basic

/-!
# Reading reports

A report is read from the object that `ChangeReport.toJson` writes, with its members in any order.
The members of the differences are kept until the end of the object: what is wrong with them is
found after everything else.
-/

namespace ApiModels

open Json

/-! ### Line counts -/

/-- Line counts of which some may still be missing. -/
structure TextStatsDraft where
  insertions : Option Nat
  deletions : Option Nat

/-- A count. -/
def asCount : Decoder Nat := asNatBelow (Nat.pow 2 64) "usize"

/-- Line counts. -/
def TextStats.reading (fuel : Nat) : Reading TextStatsDraft TextStats where
  name := "TextStats"
  blank := ⟨none, none⟩
  fields := [
    { name := "insertions"
      isSet := fun draft => draft.insertions.isSome
      set := fun draft cs => do
        let (n, rest) ← scalar fuel asCount cs
        return ({ draft with insertions := some n }, rest) },
    { name := "deletions"
      isSet := fun draft => draft.deletions.isSome
      set := fun draft cs => do
        let (n, rest) ← scalar fuel asCount cs
        return ({ draft with deletions := some n }, rest) }]
  finish draft := do
    return ⟨← required "insertions" draft.insertions, ← required "deletions" draft.deletions⟩

/-- Line counts or `null`. -/
def readStats (fuel depth : Nat) : Reader (Option TextStats) := fun cs =>
  match skipSpaces cs with
  | 'n' :: rest => do return (none, ← word ['u', 'l', 'l'] rest)
  | cs => do
    let (stats, rest) ← (TextStats.reading fuel).read fuel depth cs
    return (some stats, rest)

/-! ### Differences -/

/-- Differences of which some may still be missing. -/
structure DiffDraft where
  addedTypes : Option (List String)
  removedTypes : Option (List String)
  changedKinds : Option (List String)
  addedMembers : Option (List String)
  removedMembers : Option (List String)
  severity : Option Severity

/-- Differences among the members of a report. -/
def Diff.record : Record DiffDraft Diff where
  name := "DiffResult"
  blank := ⟨none, none, none, none, none, none⟩
  fields := [
    requiredField "added_types" (·.addedTypes) (fun d v => { d with addedTypes := some v })
      (asList asText),
    requiredField "removed_types" (·.removedTypes) (fun d v => { d with removedTypes := some v })
      (asList asText),
    requiredField "changed_type_kind" (·.changedKinds)
      (fun d v => { d with changedKinds := some v }) (asList asText),
    requiredField "added_members" (·.addedMembers) (fun d v => { d with addedMembers := some v })
      (asList asText),
    requiredField "removed_members" (·.removedMembers)
      (fun d v => { d with removedMembers := some v }) (asList asText),
    requiredField "semver" (·.severity) (fun d v => { d with severity := some v })
      (asVariant .kept Severity.known)]
  finish d := do
    return {
      addedTypes := ← required "added_types" d.addedTypes
      removedTypes := ← required "removed_types" d.removedTypes
      changedKinds := ← required "changed_type_kind" d.changedKinds
      addedMembers := ← required "added_members" d.addedMembers
      removedMembers := ← required "removed_members" d.removedMembers
      severity := ← required "semver" d.severity }

/-! ### Reports -/

namespace ChangeReport

/-- A report of which members may still be missing. -/
structure Draft where
  rawChanged : Option Bool
  oldChecksum : Option String
  newChecksum : Option String
  stats : Option (Option TextStats)
  currentVersion : Option (Option String)
  nextVersion : Option (Option String)
  /-- All other members, the last one first. -/
  others : List (String × Json)

/-- The members that a report has apart from its differences. -/
def fields (fuel depth : Nat) : List (ReadingField Draft) := [
  { name := "raw_model_file_changed"
    isSet := fun d => d.rawChanged.isSome
    set := fun d cs => do
      let (v, rest) ← scalar fuel asBool cs
      return ({ d with rawChanged := some v }, rest) },
  { name := "old_checksum"
    isSet := fun d => d.oldChecksum.isSome
    set := fun d cs => do
      let (v, rest) ← scalar fuel asText cs
      return ({ d with oldChecksum := some v }, rest) },
  { name := "new_checksum"
    isSet := fun d => d.newChecksum.isSome
    set := fun d cs => do
      let (v, rest) ← scalar fuel asText cs
      return ({ d with newChecksum := some v }, rest) },
  { name := "text_stats"
    isSet := fun d => d.stats.isSome
    set := fun d cs => do
      let (v, rest) ← readStats fuel depth cs
      return ({ d with stats := some v }, rest) },
  { name := "current_version"
    isSet := fun d => d.currentVersion.isSome
    set := fun d cs => do
      let (v, rest) ← scalar fuel (asOption asText) cs
      return ({ d with currentVersion := some v }, rest) },
  { name := "next_version"
    isSet := fun d => d.nextVersion.isSome
    set := fun d cs => do
      let (v, rest) ← scalar fuel (asOption asText) cs
      return ({ d with nextVersion := some v }, rest) }]

/-- One member of a report. -/
def readMember (fuel depth : Nat) (d : Draft) (name : String) (cs : List Char) :
    Except Fault (Draft × List Char) :=
  match (fields fuel depth).find? (·.name == name) with
  | some field =>
    if field.isSet d then .error (.pending (.duplicateField name) cs)
    else do field.set d (← colon cs)
  | none => do
    let (v, rest) ← readValue fuel depth (← colon cs)
    return ({ d with others := (name, v) :: d.others }, rest)

/-- The report of a draft, with the differences among its other members. -/
def ofDraft (d : Draft) : Except Mismatch ChangeReport := do
  let rawChanged ← required "raw_model_file_changed" d.rawChanged
  let oldChecksum ← required "old_checksum" d.oldChecksum
  let newChecksum ← required "new_checksum" d.newChecksum
  let diff ← Diff.record.decode .kept (.object d.others.reverse)
  return {
    diff := diff
    rawChanged := rawChanged
    oldChecksum := ⟨oldChecksum⟩
    newChecksum := ⟨newChecksum⟩
    stats := d.stats.join
    currentVersion := d.currentVersion.join
    nextVersion := d.nextVersion.join }

/-- A report in which containers nest at most so deep. -/
def reader (fuel depth : Nat) : Reader ChangeReport := fun cs =>
  match skipSpaces cs, depth with
  | '{' :: rest, depth + 1 => do
    let (draft, rest) ← objectMembers (readMember fuel depth) fuel true
      ⟨none, none, none, none, none, none, []⟩ rest
    match ofDraft draft with
    | .ok report => return (report, rest)
    | .error m => throw (.misfit m rest)
  | '{' :: rest, 0 => .error (.next .nestedTooDeep ('{' :: rest))
  | cs, _ => scalar fuel (fun v => .error (.wrongType (found v) "struct ChangeReport")) cs

/-- The report of a JSON text. -/
def read (s : String) : Except LocatedFault ChangeReport :=
  readTyped (reader (s.length + 1) maxDepth) s

end ChangeReport

end ApiModels
