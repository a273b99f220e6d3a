import ApiModels.Files.Basic
import ApiModels.Proofs.Except

/-!
# What writing leaves as it is

A way leads from folder to folder, along one segment after the other (`walk_cons_eq_ok_iff`).
`Files.ChangesOnly` says that everything stays where it is but for the files at some places; folders
may be added. Making folders changes no file (`changesOnly_createFolders`), and writing a text
changes the one file at the end of the path (`writeText_spec`), which any path to its place reads
(`readText_of_locate`). A path that leads somewhere leads there still (`ChangesOnly.locate`).
-/

namespace ApiModels

namespace Files

/-! ### Following a way -/

/-- The place to which a segment leads from a folder. -/
def along (folder : Place) (segment : String) : Place :=
  if Path.isHere segment then folder
  else if segment = ".." then folder.dropLast else folder ++ [segment]

/-- A segment that is not too long, if it is a name. -/
def IsFollowed (segment : String) : Prop :=
  Path.isHere segment = true ∨ segment = ".." ∨ segment.utf8ByteSize ≤ Path.segmentLimit

/-- **One step of a way** leads along a segment, out of a folder. -/
theorem walk_cons_eq_ok_iff {files : Files} {start place : Place} {segment : String}
    {segments : List String} : files.walk start (segment :: segments) = .ok place ↔
      files.get? start = some .folder ∧ IsFollowed segment ∧
        files.walk (along start segment) segments = .ok place := by
  rw [walk, along]
  cases hstart : files.get? start with
  | none => simp
  | some entry =>
    cases entry with
    | file content => simp
    | folder =>
      simp only [true_and]
      by_cases hhere : Path.isHere segment = true
      · rw [if_pos hhere, if_pos hhere]
        exact ⟨fun h => ⟨.inl hhere, h⟩, fun h => h.2⟩
      rw [if_neg hhere, if_neg hhere]
      by_cases hup : segment = ".."
      · rw [if_pos hup, if_pos hup]
        exact ⟨fun h => ⟨.inr (.inl hup), h⟩, fun h => h.2⟩
      rw [if_neg hup, if_neg hup]
      by_cases hlong : Path.segmentLimit < segment.utf8ByteSize
      · simp [IsFollowed, hhere, hup, hlong, Nat.not_le.2 hlong]
      · rw [if_neg hlong]
        exact ⟨fun h => ⟨.inr (.inr (Nat.not_lt.1 hlong)), h⟩, fun h => h.2⟩

theorem exists_walk_of_append {files : Files} {start place : Place} {segments more : List String}
    (h : files.walk start (segments ++ more) = .ok place) :
    ∃ between, files.walk start segments = .ok between ∧ files.walk between more = .ok place := by
  induction segments generalizing start with
  | nil => exact ⟨start, rfl, h⟩
  | cons segment segments ih =>
    rw [List.cons_append, walk_cons_eq_ok_iff] at h
    obtain ⟨hfolder, hfollowed, hwalk⟩ := h
    obtain ⟨between, hbetween, hmore⟩ := ih hwalk
    exact ⟨between, walk_cons_eq_ok_iff.2 ⟨hfolder, hfollowed, hbetween⟩, hmore⟩

theorem walk_singleton {files : Files} {start place : Place} {segment : String}
    (h : files.walk start [segment] = .ok place) :
    files.get? start = some .folder ∧ place = along start segment := by
  obtain ⟨hfolder, -, hwalk⟩ := walk_cons_eq_ok_iff.1 h
  exact ⟨hfolder, (Except.ok.inj hwalk).symm⟩

/-! ### Files that change -/

/-- Everything stays where it is but for the files at the given places; folders may be new. -/
structure ChangesOnly (places : List Place) (before after : Files) : Prop where
  current : after.current = before.current
  folders : ∀ place, before.get? place = some .folder → after.get? place = some .folder
  files : ∀ place ∉ places, ∀ content,
    after.get? place = some (.file content) ↔ before.get? place = some (.file content)

namespace ChangesOnly

variable {places more : List Place} {before between after : Files}

theorem refl (places : List Place) (files : Files) : ChangesOnly places files files :=
  ⟨rfl, fun _ h => h, fun _ _ _ => Iff.rfl⟩

theorem trans (h : ChangesOnly places before between) (h' : ChangesOnly more between after) :
    ChangesOnly (places ++ more) before after where
  current := h'.current.trans h.current
  folders place hplace := h'.folders place (h.folders place hplace)
  files place hplace content := by
    obtain ⟨hplaces, hmore⟩ := not_or.1 (fun hor => hplace (List.mem_append.2 hor))
    exact (h'.files place hmore content).trans (h.files place hplaces content)

theorem walk (h : ChangesOnly places before after) {start place : Place} {segments : List String}
    (hwalk : before.walk start segments = .ok place) :
    after.walk start segments = .ok place := by
  induction segments generalizing start with
  | nil => exact hwalk
  | cons segment segments ih =>
    rw [walk_cons_eq_ok_iff] at hwalk ⊢
    obtain ⟨hfolder, hfollowed, hwalk⟩ := hwalk
    exact ⟨h.folders start hfolder, hfollowed, ih hwalk⟩

/-- **A path leads where it led.** -/
theorem locate (h : ChangesOnly places before after) {path : String} {place : Place}
    (hlocate : before.locate path = .ok place) : after.locate path = .ok place := by
  unfold Files.locate locateAlong at hlocate ⊢
  cases hfault : pathFault? path with
  | some fault =>
    rw [hfault] at hlocate
    cases hlocate
  | none =>
    rw [hfault] at hlocate
    unfold start at hlocate ⊢
    rw [h.current]
    exact h.walk hlocate

end ChangesOnly

/-! ### Putting entries -/

theorem changesOnly_put_file {files : Files} {place : Place} {content : FileContent}
    (hplace : files.get? place ≠ some .folder) :
    ChangesOnly [place] files (files.put place (.file content)) where
  current := rfl
  folders other hother := by
    have hne : other ≠ place := by
      rintro rfl
      exact hplace hother
    rw [get?_put_of_ne hne, hother]
  files other hother content' := by
    rw [get?_put_of_ne fun heq => hother (List.mem_singleton.2 heq)]

theorem changesOnly_put_folder {files : Files} {place : Place} (hplace : files.get? place = none) :
    ChangesOnly [] files (files.put place .folder) where
  current := rfl
  folders other hother := by
    have hne : other ≠ place := by
      rintro rfl
      cases hplace.symm.trans hother
    rw [get?_put_of_ne hne, hother]
  files other _ content := by
    by_cases heq : other = place
    · subst heq
      have hroot : other ≠ [] := by
        rintro rfl
        cases hplace
      rw [get?_put_self hroot, hplace]
      constructor <;> rintro ⟨⟩
    · rw [get?_put_of_ne heq]

/-! ### Making folders -/

theorem changesOnly_ensureFolder {files made : Files} {start place : Place}
    {segments : List String} (h : files.ensureFolder start segments = .ok (made, place)) :
    ChangesOnly [] files made := by
  unfold ensureFolder at h
  obtain ⟨target, -, h⟩ := bind_eq_ok_iff.1 h
  split at h
  · next hmissing =>
    cases h
    exact changesOnly_put_folder hmissing
  · cases h
    exact .refl _ _
  · cases h

theorem changesOnly_createAlong {start : Place} {segments : List String} {files made : Files}
    {place : Place} (h : createAlong start files segments = .ok (made, place)) :
    ChangesOnly [] files made := by
  induction segments generalizing made place with
  | nil =>
    cases h
    exact .refl _ _
  | cons segment above ih =>
    rw [createAlong] at h
    split at h
    · -- The folder above is missing too.
      obtain ⟨⟨between, folder⟩, habove, h⟩ := bind_eq_ok_iff.1 h
      exact (ih habove).trans (changesOnly_ensureFolder h)
    · exact changesOnly_ensureFolder h

/-- **Making folders changes no file.** -/
theorem changesOnly_createFolders {files made : Files} {path : String}
    (h : files.createFolders path = .ok made) : ChangesOnly [] files made := by
  unfold createFolders at h
  split at h
  · cases h
    exact .refl _ _
  · split at h
    · cases h
    · cases hmade : createAlong (files.start path) files (Path.segments path).reverse with
      | error fault =>
        rw [hmade] at h
        cases h
      | ok result =>
        obtain ⟨between, place⟩ := result
        rw [hmade] at h
        cases h
        exact changesOnly_createAlong hmade

/-! ### Writing a text -/

/-- **Writing changes the file at the end of the path**, which then has the text. -/
theorem writeText_spec {files written : Files} {path s : String}
    (h : files.writeText path s = .ok written) :
    ∃ place, ChangesOnly [place] files written ∧ written.locate path = .ok place ∧
      written.get? place = some (.file (.text s)) := by
  unfold writeText locateTarget at h
  split at h
  · split at h <;> cases h
  · obtain ⟨place, hplace, h⟩ := bind_eq_ok_iff.1 h
    split at h
    · cases h
    · next hfolder =>
      have hroot : place ≠ [] := fun heq => hfolder (by rw [get?, if_pos heq])
      cases h
      have hchanges : ChangesOnly [place] files (files.put place (.file (.text s))) :=
        changesOnly_put_file hfolder
      exact ⟨place, hchanges, hchanges.locate hplace, get?_put_self hroot⟩

theorem readText_of_locate {files : Files} {path s : String} {place : Place}
    (hlocate : files.locate path = .ok place)
    (hget : files.get? place = some (.file (.text s))) : files.readText path = .ok s := by
  simp only [readText, readContent, hlocate, bind, Except.bind, hget]
  rfl

theorem exists_content_of_isFile {files : Files} {path : String}
    (h : files.isFile path = true) : ∃ place content, files.locate path = .ok place ∧
      files.get? place = some (.file content) := by
  unfold isFile at h
  split at h
  · next place hplace =>
    split at h
    · next content hget => exact ⟨place, content, hplace, hget⟩
    · cases h
  · cases h

end Files

end ApiModels
