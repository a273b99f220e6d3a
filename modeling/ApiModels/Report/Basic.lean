import ApiModels.Change.Diff
import ApiModels.Change.TextStats
import ApiModels.Checksum
import ApiModels.Json.Serializer
import ApiModels.Version.Basic

/-!
# Change reports

A report says what has changed between two artifacts: the differences of their declarations, whether
the texts differ, their checksums and, where a current version is known, the next one. It is written
as JSON and as a summary in Markdown.
-/

namespace ApiModels

/-- What has changed between two artifacts. -/
structure ChangeReport where
  diff : Diff
  /-- Whether the texts differ. -/
  rawChanged : Bool
  oldChecksum : Checksum
  newChecksum : Checksum
  stats : Option TextStats
  currentVersion : Option String
  nextVersion : Option String
  deriving DecidableEq, Repr

namespace ChangeReport

/-- The report of differences between declarations and of two texts. -/
def ofTexts (diff : Diff) (old new : String) : ChangeReport :=
  let stats := textChanges old new
  { diff := diff
    rawChanged := stats.changed
    oldChecksum := .ofText old
    newChecksum := .ofText new
    stats := some stats
    currentVersion := none
    nextVersion := none }

/-- The report with another answer to whether the texts differ, if there is one. -/
def withRawChanged (r : ChangeReport) (changed : Option Bool) : ChangeReport :=
  { r with rawChanged := changed.getD r.rawChanged }

/-- The report with the current version and the one that the changes call for; none where the
program stops. -/
def withVersion (arithmetic : Arithmetic) (r : ChangeReport) (current : Version) :
    Option ChangeReport :=
  (current.next? arithmetic r.diff.severity).map fun next =>
    { r with currentVersion := some current.text, nextVersion := some next.text }

/-! ### JSON -/

/-- Line counts as a JSON value. -/
def statsJson (s : TextStats) : Json :=
  .object [("insertions", .ofNat s.insertions), ("deletions", .ofNat s.deletions)]

/-- A member that is left out if there is no value. -/
def optionalMember {α : Type} (name : String) (encode : α → Json) :
    Option α → List (String × Json)
  | none => []
  | some a => [(name, encode a)]

/-- The members of a report apart from its differences. -/
def ownMembers (r : ChangeReport) : List (String × Json) :=
  [("raw_model_file_changed", .bool r.rawChanged), ("old_checksum", .text r.oldChecksum.hex),
    ("new_checksum", .text r.newChecksum.hex)] ++
  (optionalMember "text_stats" statsJson r.stats ++
    optionalMember "current_version" .text r.currentVersion ++
    optionalMember "next_version" .text r.nextVersion)

/-- The report as a JSON value: the differences first, then what else is known. -/
def toJson (r : ChangeReport) : Json :=
  .object (r.diff.jsonMembers ++
    [("raw_model_file_changed", .bool r.rawChanged), ("old_checksum", .text r.oldChecksum.hex),
      ("new_checksum", .text r.newChecksum.hex)] ++
    optionalMember "text_stats" statsJson r.stats ++
    optionalMember "current_version" .text r.currentVersion ++
    optionalMember "next_version" .text r.nextVersion)

theorem toJson_eq (r : ChangeReport) :
    r.toJson = .object (r.diff.jsonMembers ++ r.ownMembers) := by
  unfold toJson ownMembers
  simp only [List.append_assoc]

/-- The text of the report in JSON. -/
def pretty (r : ChangeReport) : String := r.toJson.pretty

/-- The text of the report as the serializer gives it. The differences go into its object. -/
def serialize (r : ChangeReport) : Except SerializeFault String := do
  let differences ← r.diff.toJson.flatten
  (Json.object (differences ++ r.ownMembers)).serialize Json.pretty

@[simp]
theorem serialize_eq_ok (r : ChangeReport) : r.serialize = .ok r.pretty := by
  rw [pretty, toJson_eq]
  exact Json.serialize_eq_ok _ _

/-! ### Markdown -/

/-- A list under a heading, and a blank line; nothing for an empty list. -/
def sectionLines (title : String) (items : List String) : List String :=
  if items.isEmpty then [] else ("### " ++ title) :: items.map ("- " ++ ·) ++ [""]

/-- The line that names the current and the next version. -/
def versionLines (r : ChangeReport) : List String :=
  match r.currentVersion, r.nextVersion with
  | some current, some next => ["Next version: " ++ current ++ " -> " ++ next]
  | _, _ => []

/-- The lines of the summary. -/
def markdownLines (r : ChangeReport) : List String :=
  ["Raw model file changed: " ++ toString r.rawChanged,
    "Recommended semantic version bump: " ++ r.diff.severity.name] ++
  r.versionLines ++ [""] ++
  sectionLines "Added Types" r.diff.addedTypes ++
  sectionLines "Removed Types" r.diff.removedTypes ++
  sectionLines "Changed Type Kind (struct<->enum)" r.diff.changedKinds ++
  sectionLines "Added Members / Enum Cases" r.diff.addedMembers ++
  sectionLines "Removed Members / Enum Cases" r.diff.removedMembers ++
  ["> " ++ r.diff.severity.recommendation]

/-- The summary in Markdown. -/
def markdown (r : ChangeReport) : String := String.join (r.markdownLines.map (· ++ "\n"))

end ChangeReport

end ApiModels
