import ApiModels.Command.Run
import ApiModels.Proofs.Command.Steps
import ApiModels.Proofs.Compilation.Recoverable
import ApiModels.Proofs.Stored

/-!
# What was generated is what is loaded

A run that generates makes folders, writes the source and then possibly the snapshot, and leaves all
else as it is (`performs_steps`). What is loaded from the output afterwards depends on where the
snapshot went (`GenerateRequest.IsLoadedAfter`): beside the source, or in its place, it gives the
declarations that were compiled. Otherwise a snapshot that was there before counts still, and where
there is none the source is read. `generate_then_load` is about every run, and `generate_not_load`
about two runs after which something else is loaded.
-/

namespace ApiModels

/-! ### The files of a run that generates -/

namespace GenerateRequest

variable {r : GenerateRequest} {models : CompiledModels} {checksum : Checksum}
  {before after : Files}

theorem changesOnly_folderSteps (h : Performs before r.folderSteps after) :
    before.ChangesOnly [] after := by
  unfold folderSteps at h
  simp only at h
  split at h
  · rw [h.eq_of_nil]
    exact .refl _ _
  · cases h with
    | cons hstep hsteps =>
      rw [hsteps.eq_of_nil]
      exact Files.changesOnly_createFolders (mapError_eq_ok_iff.1 hstep)

/-- **The files of a run**: after folders have been made the source is written, and then the
snapshot if it is asked for. -/
theorem performs_steps
    (h : Performs before (r.steps models models.snapshot.pretty checksum) after) : ∃ made written,
    before.ChangesOnly [] made ∧ made.writeText r.output models.source = .ok written ∧
      match r.snapshotPath? with
      | none => after = written
      | some path => written.writeText path models.snapshot.pretty = .ok after := by
  unfold steps at h
  rw [List.append_assoc, List.append_assoc] at h
  obtain ⟨made, hmade, h⟩ := exists_performs_of_append h
  obtain ⟨written, hwritten, h⟩ := h.of_write
  refine ⟨made, written, changesOnly_folderSteps hmade, hwritten, ?_⟩
  replace h := h.of_say
  unfold snapshotSteps at h
  cases hpath : r.snapshotPath? with
  | none =>
    rw [hpath] at h
    exact h.of_say.eq_of_nil
  | some path =>
    rw [hpath] at h
    obtain ⟨_, hsnapshot, h⟩ := h.of_write
    rw [h.of_say.of_say.eq_of_nil]
    exact hsnapshot

/-- What a run leaves at the place of its output, and where it leaves a snapshot. -/
inductive Leaves (r : GenerateRequest) (source snapshot : String) (before after : Files)
    (place : Place) : Prop
  /-- The source alone. -/
  | source (hnone : r.snapshotPath? = none) (hchanges : before.ChangesOnly [place] after)
    (hsource : after.get? place = some (.file (.text source)))
  /-- A snapshot too, which replaces the source if it goes to the same place. -/
  | snapshot {path : String} {other : Place} (hpath : r.snapshotPath? = some path)
    (hlocate : after.locate path = .ok other)
    (hsnapshot : after.get? other = some (.file (.text snapshot)))
    (hchanges : before.ChangesOnly [place, other] after)
    (hsource : other ≠ place → after.get? place = some (.file (.text source)))

theorem exists_leaves
    (h : Performs before (r.steps models models.snapshot.pretty checksum) after) :
    ∃ place, after.locate r.output = .ok place ∧
      r.Leaves models.source models.snapshot.pretty before after place := by
  obtain ⟨made, written, hmade, hwritten, hafter⟩ := performs_steps h
  obtain ⟨place, hplace, hlocate, hsource⟩ := Files.writeText_spec hwritten
  have hbefore : before.ChangesOnly [place] written := hmade.trans hplace
  cases hpath : r.snapshotPath? with
  | none =>
    rw [hpath] at hafter
    subst hafter
    exact ⟨place, hlocate, .source hpath hbefore hsource⟩
  | some path =>
    rw [hpath] at hafter
    obtain ⟨other, hother, hlocateOther, hsnapshot⟩ := Files.writeText_spec hafter
    -- The output is where it was, and its text is still the source in a place of its own.
    refine ⟨place, hother.locate hlocate,
      .snapshot hpath hlocateOther hsnapshot (hbefore.trans hother) fun hne => ?_⟩
    exact (hother.files place (fun hmem => hne (List.mem_singleton.1 hmem).symm) _).2 hsource

/-! ### What is loaded -/

/-- The snapshot went to where it is looked for when the output is loaded: beside the output, or to
its place. -/
def SnapshotIsFound (r : GenerateRequest) (after : Files) : Prop :=
  ∃ path, r.snapshotPath? = some path ∧
    (after.locate path = after.locate (Artifact.snapshotPath r.output) ∨
      after.locate path = after.locate r.output)

/-- What is loaded from the output after a run that compiled the declarations. -/
structure IsLoadedAfter (r : GenerateRequest) (settings : Settings) (models : CompiledModels)
    (before after : Files) : Prop where
  /-- If nothing else is asked for, the snapshot goes beside the output. -/
  beside : r.snapshot = .beside → r.SnapshotIsFound after
  /-- A snapshot that is found gives exactly the declarations. -/
  found : r.SnapshotIsFound after → ∃ text,
    Artifact.load after r.output = .ok ⟨text, .structured, .ofList models.declarations⟩
  /-- If there is no snapshot, the declarations are recovered from the source. -/
  recovered : ¬ r.SnapshotIsFound after →
    after.isFile (Artifact.snapshotPath r.output) = false → Artifact.load after r.output =
      .ok ⟨models.source, .swiftText, .ofList (Swift.declarations models.source)⟩
  /-- In the default profile they are recovered exactly, if all that they hold can be written. -/
  recovers : settings.render = .default →
    (∀ declaration ∈ models.declarations, declaration.IsWritable Text.isBlank) →
      Swift.declarations models.source = models.declarations
  /-- With the default settings only the names of their sources matter. -/
  recoversByDefault : settings = .default → (∀ declaration ∈ models.declarations,
    ∀ source ∈ declaration.sourceName, Swift.IsSourceName source) →
      Swift.declarations models.source = models.declarations
  /-- A snapshot that was there before is as it was, and its declarations count. -/
  earlier : ¬ r.SnapshotIsFound after →
    after.isFile (Artifact.snapshotPath r.output) = true → ∃ place content,
      after.locate (Artifact.snapshotPath r.output) = .ok place ∧
      before.get? place = some (.file content) ∧ after.get? place = some (.file content) ∧
      ∀ text, content = .text text → Artifact.load after r.output = (do
        let (format, declarations) ← (loadDeclarations text).mapError .malformed
        return ⟨models.source, format, declarations⟩)

theorem snapshotIsFound_of_beside (h : r.snapshot = .beside) : r.SnapshotIsFound after := by
  refine ⟨Artifact.snapshotPath r.output, ?_, .inl rfl⟩
  rw [snapshotPath?, h]

namespace Leaves

variable {place : Place}

theorem load_of_found (h : r.Leaves models.source models.snapshot.pretty before after place)
    (hplace : after.locate r.output = .ok place) (hfound : r.SnapshotIsFound after) : ∃ text,
      Artifact.load after r.output = .ok ⟨text, .structured, .ofList models.declarations⟩ := by
  obtain ⟨path, hpath, hsame⟩ := hfound
  cases h with
  | source hnone => cases hpath.symm.trans hnone
  | @snapshot path' other hpath' hlocate hsnapshot hchanges hsource =>
    cases hpath.symm.trans hpath'
    by_cases heq : other = place
    · rw [heq] at hsnapshot
      exact ⟨_, Artifact.load_pretty (Files.readText_of_locate hplace hsnapshot)⟩
    · -- It is not in the place of the output, so it is beside it.
      have hbeside : after.locate (Artifact.snapshotPath r.output) = .ok other := by
        rcases hsame with hsame | hsame
        · exact hsame.symm.trans hlocate
        · cases hlocate.symm.trans (hsame.trans hplace)
          exact absurd rfl heq
      have hfile : after.isFile (Artifact.snapshotPath r.output) = true := by
        unfold Files.isFile
        simp only [hbeside, hsnapshot]
      exact ⟨_, Artifact.load_beside_pretty (Files.readText_of_locate hplace (hsource heq))
        (ofText_source models) hfile (Files.readText_of_locate hbeside hsnapshot)⟩

theorem source_of_not_found {source snapshot : String}
    (h : r.Leaves source snapshot before after place)
    (hplace : after.locate r.output = .ok place) (hfound : ¬ r.SnapshotIsFound after) :
    after.get? place = some (.file (.text source)) ∧ ∀ beside content,
      after.locate (Artifact.snapshotPath r.output) = .ok beside →
        after.get? beside = some (.file content) → before.get? beside = some (.file content) := by
  cases h with
  | source hnone hchanges hsource =>
    refine ⟨hsource, fun beside content hbeside hget => ?_⟩
    -- The one file that changed is not the one beside it.
    have hfolder : after.get? place ≠ some .folder := by simp [hsource]
    have hne := Files.locate_snapshotPath_ne hplace hfolder hbeside
    exact (hchanges.files beside (by simp [hne]) content).1 hget
  | @snapshot path other hpath hlocate hsnapshot hchanges hsource =>
    -- The snapshot went to a third place.
    have hother : other ≠ place := by
      rintro rfl
      exact hfound ⟨path, hpath, .inr (hlocate.trans hplace.symm)⟩
    refine ⟨hsource hother, fun beside content hbeside hget => ?_⟩
    have hfolder : after.get? place ≠ some .folder := by simp [hsource hother]
    have hne := Files.locate_snapshotPath_ne hplace hfolder hbeside
    have hneOther : beside ≠ other := by
      rintro rfl
      exact hfound ⟨path, hpath, .inl (hlocate.trans hbeside.symm)⟩
    exact (hchanges.files beside (by simp [hne, hneOther]) content).1 hget

end Leaves

/-- **A run of the steps** decides what is loaded from the output. -/
theorem isLoadedAfter_of_performs {document : Document} {settings : Settings}
    (hcompile : compile document settings = .ok models)
    (h : Performs before (r.steps models models.snapshot.pretty checksum) after) :
    r.IsLoadedAfter settings models before after := by
  obtain ⟨place, hplace, hleaves⟩ := exists_leaves h
  constructor
  case beside => exact snapshotIsFound_of_beside
  case found => exact hleaves.load_of_found hplace
  case recovered =>
    intro hfound hfile
    obtain ⟨hsource, -⟩ := hleaves.source_of_not_found hplace hfound
    exact Artifact.load_source (Files.readText_of_locate hplace hsource) (ofText_source models)
      hfile
  case recovers =>
    intro hrender hwritable
    obtain ⟨-, rfl⟩ := compile_eq_ok_iff.1 hcompile
    unfold CompiledModels.source
    simp only [hrender] at hwritable ⊢
    exact (Swift.declarations_source_eq_foldl hwritable).trans
      (Swift.finish_foldl_sourceLines hwritable)
  case recoversByDefault =>
    rintro rfl hsources
    obtain ⟨-, rfl⟩ := compile_eq_ok_iff.1 hcompile
    exact (CompileContext.recovers_iff document).2 hsources
  case earlier =>
    intro hfound hfile
    obtain ⟨hsource, hbeside⟩ := hleaves.source_of_not_found hplace hfound
    obtain ⟨other, content, hlocate, hget⟩ := Files.exists_content_of_isFile hfile
    refine ⟨other, content, hlocate, hbeside other content hlocate hget, hget, ?_⟩
    rintro text rfl
    have htext := Files.readText_of_locate hplace hsource
    rw [Artifact.load_beside htext (ofText_source models) hfile, storedText,
      Files.readText_of_locate hlocate hget]
    rfl

/-- **A run that ends well** has compiled its document, and decides what is loaded. -/
theorem exists_isLoadedAfter {files : Files} {env : Environment}
    (h : ((r.prepare files env).run files).exit = 0) : ∃ settings document models,
      commandSettings files env r.config = .ok settings ∧
      Document.load files r.input = .ok document ∧ compile document settings = .ok models ∧
      r.IsLoadedAfter settings models files ((r.prepare files env).run files).files := by
  obtain ⟨steps, hsteps, hperforms⟩ := Prepared.exists_performs h
  obtain ⟨settings, document, models, hsettings, hload, hcompile, htodo⟩ :=
    r.exists_of_prepare hsteps
  rw [htodo] at hperforms
  exact ⟨settings, document, models, hsettings, hload, hcompile,
    isLoadedAfter_of_performs hcompile hperforms⟩

theorem not_snapshotIsFound (h : r.snapshot = .omitted) : ¬ r.SnapshotIsFound after := by
  rintro ⟨path, hpath, -⟩
  rw [snapshotPath?, h] at hpath
  cases hpath

end GenerateRequest

/-- **What was generated is what is loaded**, as far as the snapshot of the run is found. -/
theorem generate_then_load {arithmetic : Arithmetic} {args : List String} {files : Files}
    {env : Environment} (h : (Program.modelGenerate.run arithmetic args files env).exit = 0) :
    ∃ r settings document models, GenerateRequest.ofArguments args = some r ∧
      commandSettings files env r.config = .ok settings ∧
      Document.load files r.input = .ok document ∧ compile document settings = .ok models ∧
      r.IsLoadedAfter settings models files
        (Program.modelGenerate.run arithmetic args files env).files := by
  unfold Program.run Program.command? at h ⊢
  cases hrequest : GenerateRequest.ofArguments args with
  | none =>
    simp only [hrequest, Option.map_none] at h
    cases h
  | some r =>
    simp only [hrequest, Option.map_some, Command.run, Command.prepare] at h ⊢
    obtain ⟨settings, document, models, hloaded⟩ := r.exists_isLoadedAfter h
    exact ⟨r, settings, document, models, rfl, hloaded⟩

/-! ### The runs on a lamp -/

/-- A document with one enumeration. -/
def lampDocument : Document where
  members := [
    ("components", .object [("schemas", .object [
      ("Lamp", .object [("enum", .list [.text "on"]), ("type", .text "string")])])])]
  sorted := by decide +kernel
  sections := by decide +kernel

/-- The text of the document. -/
def lampText : String :=
  "\x7b\"components\": \x7b\"schemas\": \x7b\"Lamp\": " ++
    "\x7b\"type\": \"string\", \"enum\": [\"on\"]\x7d\x7d\x7d\x7d"

/-- The declaration of the lamp. -/
def lamp (name : String) : Declaration := .enum ⟨name, some "Lamp", none, [⟨"on", "on"⟩]⟩

/-- The file of the document, and a snapshot without declarations beside the output. -/
def lampFiles : Files :=
  ⟨[], [(["in.json"], .file (.text lampText)),
    (["M.swift.snapshot.json"], .file (.text (Snapshot.ofDeclarations []).pretty))]⟩

theorem compile_lampDocument : Document.load lampFiles "in.json" = .ok lampDocument ∧
    commandSettings lampFiles [] none = .ok .default ∧
    compile lampDocument .default = .ok ⟨[lamp "GeneratedLamp"], .default⟩ := by
  refine ⟨?_, ?_, ?_⟩ <;> decide +kernel

/-- The run replaces the earlier snapshot. -/
theorem generate_then_load_lamp :
    let args := ["-i", "in.json", "-o", "M.swift"]
    (Program.modelGenerate.run .checked args lampFiles []).exit = 0 ∧ ∃ text,
      Artifact.load (Program.modelGenerate.run .checked args lampFiles []).files "M.swift" =
        .ok ⟨text, .structured, .ofList [lamp "GeneratedLamp"]⟩ := by
  intro args
  have hexit : (Program.modelGenerate.run .checked args lampFiles []).exit = 0 := by decide +kernel
  obtain ⟨r, settings, document, models, hr, hsettings, hload, hcompile, hloaded⟩ :=
    generate_then_load hexit
  have hrequest : GenerateRequest.ofArguments args =
      some ⟨"in.json", "M.swift", .beside, none⟩ := rfl
  obtain ⟨hlamp, hdefault, hmodels⟩ := compile_lampDocument
  cases hr.symm.trans hrequest
  cases hsettings.symm.trans hdefault
  cases hload.symm.trans hlamp
  cases hcompile.symm.trans hmodels
  exact ⟨hexit, hloaded.found (hloaded.beside rfl)⟩

/-- A run that ends well, after which other declarations are loaded than were compiled. -/
def LoadsOther (args : List String) (files : Files) : Prop :=
  let outcome := Program.modelGenerate.run .checked args files []
  outcome.exit = 0 ∧ ∃ r settings document models artifact,
    GenerateRequest.ofArguments args = some r ∧
    commandSettings files [] r.config = .ok settings ∧
    Document.load files r.input = .ok document ∧ compile document settings = .ok models ∧
    Artifact.load outcome.files r.output = .ok artifact ∧
    artifact.declarations ≠ .ofList models.declarations

/-- The run leaves the earlier snapshot, and that is loaded. -/
theorem loadsOther_lampFiles :
    LoadsOther ["-i", "in.json", "-o", "M.swift", "--no-snapshot"] lampFiles := by
  let r : GenerateRequest := ⟨"in.json", "M.swift", .omitted, none⟩
  obtain ⟨hexit, hfile, hlocate⟩ : ((r.prepare lampFiles []).run lampFiles).exit = 0 ∧
      ((r.prepare lampFiles []).run lampFiles).files.isFile (Artifact.snapshotPath "M.swift") =
        true ∧
      ((r.prepare lampFiles []).run lampFiles).files.locate (Artifact.snapshotPath "M.swift") =
        .ok ["M.swift.snapshot.json"] := by decide +kernel
  obtain ⟨settings, document, models, hsettings, hload, hcompile, hloaded⟩ :=
    r.exists_isLoadedAfter hexit
  obtain ⟨hlamp, hdefault, hmodels⟩ := compile_lampDocument
  cases hsettings.symm.trans hdefault
  cases hload.symm.trans hlamp
  cases hcompile.symm.trans hmodels
  obtain ⟨place, content, hplace, hbefore, -, hearlier⟩ :=
    hloaded.earlier (GenerateRequest.not_snapshotIsFound rfl) hfile
  cases hplace.symm.trans hlocate
  cases hbefore
  have hartifact := hearlier _ rfl
  rw [loadDeclarations_pretty] at hartifact
  refine ⟨hexit, r, _, _, _, _, rfl, hdefault, hlamp, hmodels, hartifact, fun heq => ?_⟩
  have hget := congrArg (·.get? "GeneratedLamp") heq
  exact absurd hget (by decide +kernel)

/-- The file of the document, and settings with a name space for the types. -/
def nestedFiles : Files :=
  ⟨[], [(["in.json"], .file (.text lampText)),
    (["c.toml"], .file (.text "[naming]\nmarker_prefix = \"API.\"\n"))]⟩

/-- The settings in that file. -/
def nestedSettings : Settings :=
  { Settings.default with naming := { NamingSettings.default with marker := "API." } }

theorem compile_lampDocument_nested : Document.load nestedFiles "in.json" = .ok lampDocument ∧
    commandSettings nestedFiles [] (some "c.toml") = .ok nestedSettings ∧
    compile lampDocument nestedSettings = .ok ⟨[lamp "API.Lamp"], .default⟩ := by
  refine ⟨?_, ?_, ?_⟩ <;> decide +kernel

/-- The source is all that can be loaded, and a type in a name space is not found there. -/
theorem loadsOther_nestedFiles :
    LoadsOther ["-i", "in.json", "-o", "M.swift", "--no-snapshot", "--config", "c.toml"]
      nestedFiles := by
  let r : GenerateRequest := ⟨"in.json", "M.swift", .omitted, some "c.toml"⟩
  obtain ⟨hexit, hfile⟩ : ((r.prepare nestedFiles []).run nestedFiles).exit = 0 ∧
      ((r.prepare nestedFiles []).run nestedFiles).files.isFile
        (Artifact.snapshotPath "M.swift") = false := by decide +kernel
  obtain ⟨settings, document, models, hsettings, hload, hcompile, hloaded⟩ :=
    r.exists_isLoadedAfter hexit
  obtain ⟨hlamp, hnested, hmodels⟩ := compile_lampDocument_nested
  cases hsettings.symm.trans hnested
  cases hload.symm.trans hlamp
  cases hcompile.symm.trans hmodels
  have hartifact := hloaded.recovered (GenerateRequest.not_snapshotIsFound rfl) hfile
  have hsource : Swift.declarations (CompiledModels.source ⟨[lamp "API.Lamp"], .default⟩) = [] := by
    unfold CompiledModels.source Swift.declarations
    simp only [Swift.source, String.toList_ofList]
    decide +kernel
  refine ⟨hexit, r, _, _, _, _, rfl, hnested, hlamp, hmodels, hartifact, fun heq => ?_⟩
  have hget := congrArg (·.get? "API.Lamp") heq
  rw [hsource] at hget
  exact absurd hget (by decide +kernel)

/-- **Without its snapshot a run may be loaded as something else**: as an earlier run, or as what is
found in its source. -/
theorem generate_not_load :
    LoadsOther ["-i", "in.json", "-o", "M.swift", "--no-snapshot"] lampFiles ∧
      LoadsOther ["-i", "in.json", "-o", "M.swift", "--no-snapshot", "--config", "c.toml"]
        nestedFiles :=
  ⟨loadsOther_lampFiles, loadsOther_nestedFiles⟩

end ApiModels
