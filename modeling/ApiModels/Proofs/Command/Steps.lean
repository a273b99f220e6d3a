import ApiModels.Command.Run
import ApiModels.Proofs.Files.Frame

/-!
# Runs of steps

`Performs` is a run of steps in which none fails, and `Breaks` one that ends at a step that fails. A
step fails exactly where its folder cannot be made, its text was not serialized or its file cannot
be written (`Step.Fails`). Documents and reports are always serialized, so a step that only writes
what has been serialized fails only if it cannot write (`Step.Fails.isWriteFault`). The steps
of a command are performed in one of the two ways (`performs_performAll`, `breaks_iff`), and this
decides how it ends (`Prepared.exists_performs`, `Prepared.run_of_breaks`). Which steps a command
settles depends on what it has loaded and computed before (`exists_of_prepare` of each request).
-/

namespace ApiModels

/-! ### Steps that fail -/

/-- The folder that a step makes cannot be made, its text was refused by the serializer, or the file
that it writes cannot be written. -/
inductive Step.Fails (files : Files) : Step → CommandFault → Prop
  | folder {path : String} {fault : FileFault} (h : files.createFolders path = .error fault) :
    Fails files (.createFolder path) (.creating path fault)
  | unserialized {path : String} {fault : SerializeFault} :
    Fails files (.write path (.error fault)) (.processing (.unserialized fault))
  | text {path text : String} {fault : FileFault}
    (h : files.writeText path text = .error fault) :
    Fails files (.write path (.ok text)) (.writing path fault)
  | document {path : String} {document : Document} {fault : FileFault}
    (h : files.writeText path document.pretty = .error fault) :
    Fails files (.save path document) (.saving path (.file fault))

theorem Document.save_eq (d : Document) (files : Files) (path : String) :
    d.save files path = (files.writeText path d.pretty).mapError .file := by
  rw [save, serialize_eq_ok]
  rfl

theorem Step.perform_eq_error_iff {files : Files} {step : Step} {fault : CommandFault} :
    step.perform files = .error fault ↔ step.Fails files fault := by
  constructor
  · intro h
    cases step with
    | say line => cases h
    | createFolder path =>
      obtain ⟨cause, hcause, rfl⟩ := mapError_eq_error_iff.1 h
      exact .folder hcause
    | write path text =>
      cases text with
      | error cause =>
        cases h
        exact .unserialized
      | ok text =>
        obtain ⟨cause, hcause, rfl⟩ := mapError_eq_error_iff.1 h
        exact .text hcause
    | save path document =>
      obtain ⟨failure, hsave, rfl⟩ := mapError_eq_error_iff.1 h
      rw [document.save_eq] at hsave
      obtain ⟨cause, hcause, rfl⟩ := mapError_eq_error_iff.1 hsave
      exact .document hcause
  · intro h
    cases h with
    | folder h => exact mapError_eq_error_iff.2 ⟨_, h, rfl⟩
    | unserialized => rfl
    | text h => exact mapError_eq_error_iff.2 ⟨_, h, rfl⟩
    | document h =>
      refine mapError_eq_error_iff.2 ⟨_, ?_, rfl⟩
      rw [Document.save_eq]
      exact mapError_eq_error_iff.2 ⟨_, h, rfl⟩

/-- Steps of which none fails lead from files to files. -/
inductive Performs : Files → List Step → Files → Prop
  | nil (files : Files) : Performs files [] files
  | cons {before between after : Files} {step : Step} {steps : List Step}
    (hstep : step.perform before = .ok between) (hsteps : Performs between steps after) :
    Performs before (step :: steps) after

theorem performs_performAll {files : Files} {steps : List Step}
    (h : (performAll files steps).fault = none) :
    Performs files steps (performAll files steps).files := by
  induction steps generalizing files with
  | nil => exact .nil files
  | cons step steps ih =>
    rw [performAll] at h ⊢
    cases hstep : step.perform files with
    | error fault =>
      rw [hstep] at h
      cases h
    | ok between =>
      rw [hstep] at h
      exact .cons hstep (ih h)

theorem exists_performs_of_append {before after : Files} {steps more : List Step}
    (h : Performs before (steps ++ more) after) :
    ∃ between, Performs before steps between ∧ Performs between more after := by
  induction steps generalizing before with
  | nil => exact ⟨before, .nil before, h⟩
  | cons step steps ih =>
    cases h with
    | cons hstep hsteps =>
      obtain ⟨between, hbetween, hmore⟩ := ih hsteps
      exact ⟨between, .cons hstep hbetween, hmore⟩

/-- Steps lead from files to files, over which the next one fails. -/
inductive Breaks : Files → List Step → Files → CommandFault → Prop
  | here {files : Files} {step : Step} {steps : List Step} {fault : CommandFault}
    (hstep : step.Fails files fault) : Breaks files (step :: steps) files fault
  | later {before between after : Files} {step : Step} {steps : List Step} {fault : CommandFault}
    (hstep : step.perform before = .ok between) (hsteps : Breaks between steps after fault) :
    Breaks before (step :: steps) after fault

/-- **Steps are performed up to the first one that fails.** -/
theorem breaks_iff {before after : Files} {steps : List Step} {fault : CommandFault} :
    Breaks before steps after fault ↔
      (performAll before steps).fault = some fault ∧ (performAll before steps).files = after := by
  induction steps generalizing before with
  | nil =>
    constructor
    · rintro ⟨⟩
    · rintro ⟨⟨⟩, -⟩
  | cons step steps ih =>
    rw [performAll]
    cases hstep : step.perform before with
    | error stepFault =>
      constructor
      · intro h
        cases h with
        | here hfails =>
          cases hstep.symm.trans (Step.perform_eq_error_iff.2 hfails)
          exact ⟨rfl, rfl⟩
        | later hperform => cases hstep.symm.trans hperform
      · rintro ⟨⟨⟩, rfl⟩
        exact .here (Step.perform_eq_error_iff.1 hstep)
    | ok between =>
      constructor
      · intro h
        cases h with
        | here hfails => cases hstep.symm.trans (Step.perform_eq_error_iff.2 hfails)
        | later hperform hsteps =>
          cases hstep.symm.trans hperform
          exact ih.1 hsteps
      · exact fun h => .later hstep (ih.2 h)

/-- A text was written before the steps after it. -/
theorem Performs.of_write {before after : Files} {path text : String} {steps : List Step}
    (h : Performs before (.write path (.ok text) :: steps) after) :
    ∃ written, before.writeText path text = .ok written ∧ Performs written steps after := by
  cases h with
  | cons hstep hsteps => exact ⟨_, mapError_eq_ok_iff.1 hstep, hsteps⟩

theorem Performs.of_say {before after : Files} {line : String} {steps : List Step}
    (h : Performs before (.say line :: steps) after) : Performs before steps after := by
  cases h with
  | cons hstep hsteps =>
    cases hstep
    exact hsteps

theorem Performs.eq_of_nil {before after : Files} (h : Performs before [] after) :
    after = before := by
  cases h
  rfl

theorem CommandFault.exit_ne_zero (fault : CommandFault) : fault.exit ≠ 0 := by
  cases fault <;> exact Nat.succ_ne_zero _

theorem Prepared.exists_performs {p : Prepared} {files : Files} (h : (p.run files).exit = 0) :
    ∃ steps, p.steps = .ok steps ∧ Performs files steps (p.run files).files := by
  unfold run at h ⊢
  cases hsteps : p.steps with
  | error fault =>
    rw [hsteps] at h
    exact absurd h fault.exit_ne_zero
  | ok steps =>
    rw [hsteps] at h
    refine ⟨steps, rfl, ?_⟩
    cases hfault : (performAll files steps).fault with
    | some fault =>
      simp only [hfault] at h
      exact absurd h fault.exit_ne_zero
    | none =>
      simp only [hfault]
      exact performs_performAll hfault

theorem Prepared.run_of_breaks {p : Prepared} {files after : Files} {steps : List Step}
    {fault : CommandFault} (hsteps : p.steps = .ok steps) (h : Breaks files steps after fault) :
    (p.run files).exit = fault.exit ∧ (p.run files).complaint = complaintText fault ∧
      (p.run files).files = after := by
  obtain ⟨hfault, hfiles⟩ := breaks_iff.1 h
  unfold run
  simp only [hsteps, hfault, hfiles, and_self]

theorem Prepared.run_of_error {p : Prepared} {files : Files} {fault : CommandFault}
    (h : p.steps = .error fault) :
    p.run files = ⟨fault.exit, outputText p.said, complaintText fault, files⟩ := by
  unfold run
  rw [h]

/-! ### The steps that are settled -/

section Settled

variable {files : Files} {env : Environment} {steps : List Step}

theorem PruneRequest.exists_of_prepare {r : PruneRequest}
    (h : (r.prepare files env).steps = .ok steps) : ∃ settings document,
      commandSettings files env r.config = .ok settings ∧
      Document.load files r.input = .ok document ∧
      steps = r.steps ((r.pruner settings).prune document) := by
  unfold prepare at h
  split at h
  · cases h
  · next settings hsettings =>
    split at h
    · cases h
    · next document hload =>
      exact ⟨settings, document, hsettings, hload, (Except.ok.inj h).symm⟩

theorem GenerateRequest.exists_of_prepare {r : GenerateRequest}
    (h : (r.prepare files env).steps = .ok steps) : ∃ settings document models,
      commandSettings files env r.config = .ok settings ∧
      Document.load files r.input = .ok document ∧ compile document settings = .ok models ∧
      steps = r.steps models models.snapshot.pretty models.snapshot.checksum := by
  unfold prepare at h
  split at h
  · cases h
  · next settings hsettings =>
    split at h
    · cases h
    · next document hload =>
      simp only [settle_eq] at h
      split at h
      · cases h
      · next models hcompile =>
        exact ⟨settings, document, models, hsettings, hload, hcompile, (Except.ok.inj h).symm⟩

theorem ClassifyRequest.exists_of_prepare {arithmetic : Arithmetic} {r : ClassifyRequest}
    (h : (r.prepare arithmetic files env).steps = .ok steps) : ∃ settings old new report tag,
      r.load files env = .ok (settings, old, new) ∧
      r.compare arithmetic settings old new = .ok (report, tag) ∧ steps = r.steps report tag := by
  unfold prepare at h
  split at h
  · cases h
  · next settings old new hload =>
    simp only at h
    split at h
    · cases h
    · next report tag hcompare =>
      exact ⟨settings, old, new, report, tag, hload, hcompare, (Except.ok.inj h).symm⟩

end Settled

end ApiModels
