import ApiModels.Command.Run
import ApiModels.Proofs.Command.Steps
import ApiModels.Proofs.Stored

/-!
# Commands that fail

A command may be refused before its first step: its settings, its document or its artifacts cannot
be loaded, a reference of the document is not resolved, the current version is none, or the next one
would overflow and sums are checked (`Command.Refuses`). These are exactly the faults of its
preparation (`Refuses.prepare`, `refuses_of_prepare`). All that its steps write has been serialized
(`isSerialized_of_prepare`), so after it there is only one kind of fault left, a step that cannot
write. A command that fails for any other reason has changed no file, and ends with status 1 unless
the program stopped. `Program.run_failsCleanly` is about every run.
-/

namespace ApiModels

namespace Command

/-- Why a command is refused, in the order in which it looks. -/
inductive Refuses (arithmetic : Arithmetic) (files : Files) (env : Environment) :
    Command → CommandFault → Prop
  | settings {command : Command} {fault : SettingsFault}
    (hsettings : Settings.load files env command.config? = .error fault) :
    Refuses arithmetic files env command (.settings fault)
  | unreadToPrune {request : PruneRequest} {settings : Settings} {failure : Failure}
    (hsettings : Settings.load files env request.config = .ok settings)
    (hdocument : Document.load files request.input = .error failure) :
    Refuses arithmetic files env (.prune request) (.reading request.input failure)
  | unreadToGenerate {request : GenerateRequest} {settings : Settings} {failure : Failure}
    (hsettings : Settings.load files env request.config = .ok settings)
    (hdocument : Document.load files request.input = .error failure) :
    Refuses arithmetic files env (.generate request) (.reading request.input failure)
  /-- A reference in the document names no schema. -/
  | unresolved {request : GenerateRequest} {settings : Settings} {document : Document}
    {reference : UnresolvedReference}
    (hsettings : Settings.load files env request.config = .ok settings)
    (hdocument : Document.load files request.input = .ok document)
    (hcompile : compile document settings = .error reference) :
    Refuses arithmetic files env (.generate request) (.processing (.unresolved reference))
  | old {request : ClassifyRequest} {settings : Settings} {failure : Failure}
    (hsettings : Settings.load files env request.config = .ok settings)
    (hold : Artifact.load files request.old = .error failure) :
    Refuses arithmetic files env (.classify request) (.loading request.old failure)
  | new {request : ClassifyRequest} {settings : Settings} {old : Artifact} {failure : Failure}
    (hsettings : Settings.load files env request.config = .ok settings)
    (hold : Artifact.load files request.old = .ok old)
    (hnew : Artifact.load files request.new = .error failure) :
    Refuses arithmetic files env (.classify request) (.loading request.new failure)
  /-- The current version is none. -/
  | version {request : ClassifyRequest} {settings : Settings} {old new : Artifact} {text : String}
    {fault : VersionFault}
    (hsettings : Settings.load files env request.config = .ok settings)
    (hold : Artifact.load files request.old = .ok old)
    (hnew : Artifact.load files request.new = .ok new) (htext : request.version = some text)
    (hversion : Version.read text = .error fault) :
    Refuses arithmetic files env (.classify request) (.processing (.badVersion text fault))
  /-- The number that the next version raises is the greatest one, and the program stops. -/
  | overflow {request : ClassifyRequest} {settings : Settings} {old new : Artifact} {text : String}
    {current : Version} (hsettings : Settings.load files env request.config = .ok settings)
    (hold : Artifact.load files request.old = .ok old)
    (hnew : Artifact.load files request.new = .ok new) (htext : request.version = some text)
    (hversion : Version.read text = .ok current) (hchecked : arithmetic = .checked)
    (hoverflow : current.Overflows (ClassifyRequest.differences settings old new).severity) :
    Refuses arithmetic files env (.classify request) .overflow

/-- Why a command fails, and the files that it leaves. -/
inductive Fails (arithmetic : Arithmetic) (command : Command) (files : Files) (env : Environment) :
    CommandFault → Files → Prop
  | refused {fault : CommandFault} (h : command.Refuses arithmetic files env fault) :
    Fails arithmetic command files env fault files
  /-- A step cannot write, after others have been performed. -/
  | broken {steps : List Step} {fault : CommandFault} {after : Files}
    (hsteps : (command.prepare arithmetic files env).steps = .ok steps)
    (hbreaks : Breaks files steps after fault) : Fails arithmetic command files env fault after

variable {arithmetic : Arithmetic} {files : Files} {env : Environment} {fault : CommandFault}

/-! ### Why commands are refused -/

theorem commandSettings_eq_ok_iff {path : Option String} {settings : Settings} :
    commandSettings files env path = .ok settings ↔
      Settings.load files env path = .ok settings :=
  mapError_eq_ok_iff

theorem commandSettings_eq_error_iff {path : Option String} :
    commandSettings files env path = .error fault ↔
      ∃ cause, Settings.load files env path = .error cause ∧ .settings cause = fault :=
  mapError_eq_error_iff

section Classify

variable {request : ClassifyRequest} {settings : Settings} {old new : Artifact}

theorem loadArtifact_eq_error_iff {path : String} :
    ClassifyRequest.loadArtifact files path = .error fault ↔
      ∃ failure, Artifact.load files path = .error failure ∧ .loading path failure = fault :=
  mapError_eq_error_iff

/-- The settings are loaded first, then the old artifact and then the new one. -/
theorem load_eq_ok_iff : request.load files env = .ok (settings, old, new) ↔
    Settings.load files env request.config = .ok settings ∧
      Artifact.load files request.old = .ok old ∧ Artifact.load files request.new = .ok new := by
  simp only [ClassifyRequest.load, bind_eq_ok_iff, commandSettings_eq_ok_iff,
    ClassifyRequest.loadArtifact, mapError_eq_ok_iff]
  constructor
  · rintro ⟨_, hsettings, _, hold, _, hnew, ⟨⟩⟩
    exact ⟨hsettings, hold, hnew⟩
  · rintro ⟨hsettings, hold, hnew⟩
    exact ⟨settings, hsettings, old, hold, new, hnew, rfl⟩

theorem load_eq_error_iff : request.load files env = .error fault ↔
    (∃ cause, Settings.load files env request.config = .error cause ∧ .settings cause = fault) ∨
      ∃ settings, Settings.load files env request.config = .ok settings ∧
        ((∃ failure, Artifact.load files request.old = .error failure ∧
            .loading request.old failure = fault) ∨
          ∃ old, Artifact.load files request.old = .ok old ∧
            ∃ failure, Artifact.load files request.new = .error failure ∧
              .loading request.new failure = fault) := by
  have hpure : ∀ settings old new,
      (pure (settings, old, new) : Except CommandFault (Settings × Artifact × Artifact)) ≠
        .error fault := by
    rintro settings old new ⟨⟩
  simp only [ClassifyRequest.load, bind_eq_error_iff, commandSettings_eq_ok_iff,
    commandSettings_eq_error_iff, loadArtifact_eq_error_iff, hpure, and_false, exists_false,
    or_false]
  simp only [ClassifyRequest.loadArtifact, mapError_eq_ok_iff]

theorem computed_eq_error_iff {α : Type} {x : Option α} :
    ClassifyRequest.computed x = .error fault ↔ x = none ∧ .overflow = fault := by
  cases x with
  | none => exact ⟨fun h => ⟨rfl, Except.error.inj h⟩, fun h => congrArg _ h.2⟩
  | some a =>
    constructor
    · rintro ⟨⟩
    · rintro ⟨⟨⟩, -⟩

/-- Artifacts are compared unless the current version is none, or a checked sum overflows. -/
theorem compare_eq_error_iff : request.compare arithmetic settings old new = .error fault ↔
    ∃ text, request.version = some text ∧
      ((∃ cause, Version.read text = .error cause ∧ .processing (.badVersion text cause) = fault) ∨
        ∃ current, Version.read text = .ok current ∧ (arithmetic = .checked ∧
          current.Overflows (ClassifyRequest.differences settings old new).severity) ∧
            .overflow = fault) := by
  unfold ClassifyRequest.compare
  cases request.version with
  | none =>
    constructor
    · rintro ⟨⟩
    · rintro ⟨_, ⟨⟩, -⟩
  | some text =>
    simp only [bind_eq_error_iff, readVersion, mapError_eq_error_iff, mapError_eq_ok_iff,
      computed_eq_error_iff, ChangeReport.withVersion, Option.map_eq_none_iff,
      Version.next?_eq_none_iff, Option.some.injEq, exists_eq_left']
    constructor
    · rintro (⟨_, ⟨cause, hread, rfl⟩, rfl⟩ | ⟨current, hread, hrest⟩)
      · exact .inl ⟨cause, hread, rfl⟩
      · refine .inr ⟨current, hread, ?_⟩
        rcases hrest with hstops | ⟨_, -, hstops | ⟨_, -, ⟨⟩⟩⟩ <;> exact hstops
    · rintro (⟨cause, hread, rfl⟩ | ⟨current, hread, hstops⟩)
      · exact .inl ⟨_, ⟨cause, hread, rfl⟩, rfl⟩
      · exact .inr ⟨current, hread, .inl hstops⟩

end Classify

/-- What a command is refused for, its preparation finds. -/
theorem Refuses.prepare {command : Command} (h : command.Refuses arithmetic files env fault) :
    (command.prepare arithmetic files env).steps = .error fault := by
  cases h with
  | settings hsettings =>
    have hfault := commandSettings_eq_error_iff.2 ⟨_, hsettings, rfl⟩
    cases command with
    | prune request =>
      simp only [config?] at hfault
      simp only [Command.prepare, PruneRequest.prepare, hfault]
    | generate request =>
      simp only [config?] at hfault
      simp only [Command.prepare, GenerateRequest.prepare, hfault]
    | classify request =>
      have hload := load_eq_error_iff.2 (.inl ⟨_, hsettings, rfl⟩)
      simp only [Command.prepare, ClassifyRequest.prepare, hload]
  | unreadToPrune hsettings hdocument =>
    simp only [Command.prepare, PruneRequest.prepare, commandSettings_eq_ok_iff.2 hsettings,
      hdocument]
  | unreadToGenerate hsettings hdocument =>
    simp only [Command.prepare, GenerateRequest.prepare, commandSettings_eq_ok_iff.2 hsettings,
      hdocument]
  | unresolved hsettings hdocument hcompile =>
    simp only [Command.prepare, GenerateRequest.prepare, commandSettings_eq_ok_iff.2 hsettings,
      hdocument, GenerateRequest.settle_eq, hcompile]
  | old hsettings hold =>
    have hload := load_eq_error_iff.2 (.inr ⟨_, hsettings, .inl ⟨_, hold, rfl⟩⟩)
    simp only [Command.prepare, ClassifyRequest.prepare, hload]
  | new hsettings hold hnew =>
    have hload := load_eq_error_iff.2 (.inr ⟨_, hsettings, .inr ⟨_, hold, _, hnew, rfl⟩⟩)
    simp only [Command.prepare, ClassifyRequest.prepare, hload]
  | @version request settings old new text cause hsettings hold hnew htext hversion =>
    have hload := load_eq_ok_iff.2 ⟨hsettings, hold, hnew⟩
    have hcompare : request.compare arithmetic settings old new =
        .error (.processing (.badVersion text cause)) :=
      compare_eq_error_iff.2 ⟨text, htext, .inl ⟨cause, hversion, rfl⟩⟩
    simp only [Command.prepare, ClassifyRequest.prepare, hload, hcompare]
  | @overflow request settings old new text current hsettings hold hnew htext hversion hchecked
      hoverflow =>
    have hload := load_eq_ok_iff.2 ⟨hsettings, hold, hnew⟩
    have hcompare : request.compare arithmetic settings old new = .error .overflow :=
      compare_eq_error_iff.2 ⟨text, htext, .inr ⟨current, hversion, ⟨hchecked, hoverflow⟩, rfl⟩⟩
    simp only [Command.prepare, ClassifyRequest.prepare, hload, hcompare]

theorem Fails.run {command : Command} {after : Files}
    (h : command.Fails arithmetic files env fault after) :
    (command.run arithmetic files env).exit = fault.exit ∧
      (command.run arithmetic files env).complaint = complaintText fault ∧
      (command.run arithmetic files env).files = after := by
  cases h with
  | refused hrefuses =>
    rw [Command.run, Prepared.run_of_error hrefuses.prepare]
    exact ⟨rfl, rfl, rfl⟩
  | broken hsteps hbreaks => exact Prepared.run_of_breaks hsteps hbreaks

end Command

end ApiModels
