import ApiModels.Proofs.Files.Frame
import ApiModels.Proofs.Snapshot
import ApiModels.Proofs.Text.Blank
import ApiModels.Stored
import ApiModels.Swift.Source

/-!
# Loading an artifact

What is loaded from a path depends on two files: the one that the path names, and the snapshot
beside it. The two are never the same (`locate_snapshotPath_ne`). A stored snapshot is loaded as it
was made, whether it stands in the place of the artifact (`Artifact.load_pretty`) or beside it
(`Artifact.load_beside_pretty`); without one the source is read (`Artifact.load_source`).
-/

namespace ApiModels

/-! ### The place of the snapshot -/

namespace Files

variable {files : Files}

theorem walk_of_locate {path : String} {place : Place} (h : files.locate path = .ok place) :
    path ≠ "" ∧ files.walk (files.start path) (Path.segments path) = .ok place := by
  unfold locate locateAlong pathFault? at h
  split at h
  · cases h
  · next hfault =>
    refine ⟨?_, h⟩
    rintro rfl
    cases hfault

/-- **The snapshot beside a file is another file.** -/
theorem locate_snapshotPath_ne {path : String} {place other : Place}
    (hplace : files.locate path = .ok place) (hfolder : files.get? place ≠ some .folder)
    (hother : files.locate (Artifact.snapshotPath path) = .ok other) : other ≠ place := by
  obtain ⟨hne, hplace⟩ := walk_of_locate hplace
  obtain ⟨-, hother⟩ := walk_of_locate hother
  -- Both ways start in the same folder and part at the last segment.
  have hstart : files.start (Artifact.snapshotPath path) = files.start path := by
    have hcons : path.toList ≠ [] := fun hnil => hne (String.toList_eq_nil_iff.1 hnil)
    unfold start Path.isAbsolute Artifact.snapshotPath
    rw [String.toList_append, List.head?_append_of_ne_nil _ hcons]
  obtain ⟨before, last, hlast, hending⟩ := Text.exists_fields_append (· == '/') path.toList
    ".snapshot.json".toList (by simp)
  rw [Path.segments, hlast, List.map_append, List.map_singleton] at hplace
  rw [hstart, Path.segments, Artifact.snapshotPath, String.toList_append, hending, List.map_append,
    List.map_singleton] at hother
  obtain ⟨folder, hbefore, hplace⟩ := exists_walk_of_append hplace
  obtain ⟨folder', hbefore', hother⟩ := exists_walk_of_append hother
  cases hbefore.symm.trans hbefore'
  obtain ⟨hget, rfl⟩ := walk_singleton hplace
  obtain ⟨-, rfl⟩ := walk_singleton hother
  have hlong : (String.ofList (last ++ ".snapshot.json".toList)).length = last.length + 14 := by
    rw [String.length_ofList, List.length_append]
    rfl
  generalize String.ofList (last ++ ".snapshot.json".toList) = snapshot at hlong
  have hshort : ∀ short : String, short.length < 14 → snapshot ≠ short := by
    rintro short hlength rfl
    omega
  have hnotHere : ¬ Path.isHere snapshot = true := by
    simp [Path.isHere, hshort "" (by decide), hshort "." (by decide)]
  have hbeside : along folder snapshot = folder ++ [snapshot] := by
    rw [along, if_neg hnotHere, if_neg (hshort ".." (by decide))]
  rw [hbeside]
  unfold along at hfolder ⊢
  split at hfolder
  · exact absurd hget hfolder
  · next hhere =>
    rw [if_neg hhere]
    split
    · -- The path leads up, and the snapshot stands below.
      intro heq
      have hlength := congrArg List.length heq
      rw [List.length_append, List.length_singleton, List.length_dropLast] at hlength
      omega
    · -- Both stand in the folder, and the name of the snapshot is longer.
      intro heq
      have hsame := List.singleton_inj.1 (List.append_cancel_left heq)
      rw [hsame, String.length_ofList] at hlong
      omega

end Files

/-! ### Loading -/

theorem ofText_source (models : CompiledModels) :
    ArtifactFormat.ofText models.source = .swiftText := by
  obtain ⟨declarations, profile⟩ := models
  unfold CompiledModels.source
  cases profile.language
  unfold ArtifactFormat.ofText Swift.source Swift.sourceLines
  rw [String.toList_ofList]
  rfl

namespace Artifact

variable {files : Files} {path text : String}

theorem load_pretty {declarations : List Declaration}
    (htext : files.readText path = .ok (Snapshot.ofDeclarations declarations).pretty) :
    load files path = .ok ⟨(Snapshot.ofDeclarations declarations).pretty, .structured,
      .ofList declarations⟩ := by
  have hformat : ¬ (ArtifactFormat.structured = .swiftText ∧
      files.isFile (snapshotPath path) = true) := fun h => nomatch h.1
  simp only [load, declarationText, storedText, htext, Except.mapError, ofText_pretty, bind,
    Except.bind, if_neg hformat, loadDeclarations_pretty]
  rfl

theorem load_beside (htext : files.readText path = .ok text)
    (hsource : ArtifactFormat.ofText text = .swiftText)
    (hfile : files.isFile (snapshotPath path) = true) :
    load files path = (do
      let snapshot ← storedText files (snapshotPath path)
      let (format, declarations) ← (loadDeclarations snapshot).mapError .malformed
      return ⟨text, format, declarations⟩) := by
  simp only [load, declarationText, storedText, htext, Except.mapError, hsource, hfile, bind,
    Except.bind, and_self, if_true]

theorem load_beside_pretty {declarations : List Declaration}
    (htext : files.readText path = .ok text)
    (hsource : ArtifactFormat.ofText text = .swiftText)
    (hfile : files.isFile (snapshotPath path) = true)
    (hsnapshot : files.readText (snapshotPath path) =
      .ok (Snapshot.ofDeclarations declarations).pretty) :
    load files path = .ok ⟨text, .structured, .ofList declarations⟩ := by
  rw [load_beside htext hsource hfile, storedText, hsnapshot]
  simp only [Except.mapError, bind, Except.bind, loadDeclarations_pretty]
  rfl

theorem load_source (htext : files.readText path = .ok text)
    (hsource : ArtifactFormat.ofText text = .swiftText)
    (hfile : files.isFile (snapshotPath path) = false) :
    load files path = .ok ⟨text, .swiftText, .ofList (Swift.declarations text)⟩ := by
  simp only [load, declarationText, storedText, htext, Except.mapError, hsource, hfile, bind,
    Except.bind, Bool.false_eq_true, and_false, if_false, loadDeclarations, readDeclarations]
  rfl

end Artifact

end ApiModels
