import ApiModels.Proofs.Change.Releases
import ApiModels.Proofs.Change.Script
import ApiModels.Proofs.Text.Lines
import ApiModels.Report.Basic
import ApiModels.Swift.Loading

/-!
# Texts that differ

The lines of a text have their terminators, so texts with the same lines are the same, and lines are
inserted or deleted exactly if the texts differ (`changed_textChanges_iff`). The declarations of a
text follow from the text. So a report on two texts that calls for more than a patch says that the
texts differ, and one that says that they do not lists nothing and has the same checksum twice
(`rawChanged_exact`).
-/

namespace ApiModels

open Edit (IsShortest)

namespace Text

theorem terminatedLines_injective : terminatedLines.Injective := by
  intro cs cs' h
  rw [← flatten_terminatedLines cs, h, flatten_terminatedLines]

end Text

/-- The lines of a text, each with its terminator. -/
def linesOf (s : String) : List (List Char) := Text.terminatedLines s.toList

theorem linesOf_inj {s s' : String} : linesOf s = linesOf s' ↔ s = s' :=
  ⟨fun h => String.toList_injective (Text.terminatedLines_injective h), congrArg linesOf⟩

/-! ### Counts of lines -/

/-- **The counts are those of every shortest script of the lines.** -/
theorem stats_eq_textChanges {old new : String} {script : List (Edit (List Char))}
    (h : IsShortest script (linesOf old) (linesOf new)) :
    Edit.stats script = textChanges old new :=
  Edit.stats_of_isShortest h

/-- The lines that are common to both texts are neither inserted nor deleted. -/
theorem textChanges_add_commonLength (old new : String) :
    (textChanges old new).deletions + commonLength (linesOf old) (linesOf new) =
        (linesOf old).length ∧
      (textChanges old new).insertions + commonLength (linesOf old) (linesOf new) =
        (linesOf new).length := by
  obtain ⟨hold, hnew⟩ := commonLength_le_length (linesOf old) (linesOf new)
  exact ⟨Nat.sub_add_cancel hold, Nat.sub_add_cancel hnew⟩

/-- **Lines are inserted or deleted exactly if the texts differ.** -/
theorem changed_textChanges_iff (old new : String) :
    (textChanges old new).changed = true ↔ old ≠ new := by
  obtain ⟨hdeletions, hinsertions⟩ := textChanges_add_commonLength old new
  rw [ne_eq, ← linesOf_inj, ← length_eq_commonLength_iff, TextStats.changed, Bool.or_eq_true,
    decide_eq_true_eq, decide_eq_true_eq]
  omega

theorem textChanges_swap (old new : String) : textChanges new old =
    ⟨(textChanges old new).deletions, (textChanges old new).insertions⟩ := by
  have hcomm := commonLength_comm (linesOf new) (linesOf old)
  unfold linesOf at hcomm
  unfold textChanges
  simp only [hcomm]

/-! ### Reports -/

/-- The report on two texts with the given declarations, without a given answer to whether the texts
differ. -/
def ChangeReport.ofDeclarations (profile : RenderProfile) (m n : DeclarationMap)
    (old new : String) : ChangeReport :=
  (ofTexts (ApiModels.diff profile m n) old new).withRawChanged none

section Report

variable {old new : String} {profile : RenderProfile} {m n : DeclarationMap}

theorem rawChanged_ofDeclarations_iff :
    (ChangeReport.ofDeclarations profile m n old new).rawChanged = true ↔ old ≠ new :=
  changed_textChanges_iff old new

theorem ofDeclarations_of_same {f g : ArtifactFormat} (hold : loadDeclarations old = .ok (f, m))
    (hnew : loadDeclarations new = .ok (g, n)) (h : old = new) :
    (ChangeReport.ofDeclarations profile m n old new).diff = .empty ∧
      (ChangeReport.ofDeclarations profile m n old new).oldChecksum =
        (ChangeReport.ofDeclarations profile m n old new).newChecksum := by
  subst h
  cases hold.symm.trans hnew
  exact ⟨diff_eq_empty (severity_diff_self profile m), rfl⟩

end Report

/-- **The flag for texts that differ is exact.** It follows the shortest scripts of the lines, it
holds exactly if the texts differ, and it agrees with the differences between the declarations. -/
theorem rawChanged_exact (old new : String) :
    (Text.IsCutInto old.toList (linesOf old) ∧ Text.IsCutInto new.toList (linesOf new)) ∧
    ((∃ script, IsShortest script (linesOf old) (linesOf new)) ∧
      ∀ script, IsShortest script (linesOf old) (linesOf new) →
        Edit.stats script = textChanges old new) ∧
    ((textChanges old new).changed = true ↔ old ≠ new) ∧
    ((textChanges old new).insertions : Int) - (textChanges old new).deletions =
      (linesOf new).length - (linesOf old).length ∧
    textChanges new old =
      ⟨(textChanges old new).deletions, (textChanges old new).insertions⟩ ∧
    ∀ profile f g m n, loadDeclarations old = .ok (f, m) → loadDeclarations new = .ok (g, n) →
      let report := ChangeReport.ofDeclarations profile m n old new
      (report.diff.severity ≠ .patch → report.rawChanged = true) ∧
        (report.rawChanged = false →
          report.diff = .empty ∧ report.oldChecksum = report.newChecksum) := by
  refine ⟨⟨Text.isCutInto_terminatedLines _, Text.isCutInto_terminatedLines _⟩,
    ⟨Edit.exists_isShortest _ _, fun script => stats_eq_textChanges⟩,
    changed_textChanges_iff old new, ?_, textChanges_swap old new, ?_⟩
  · obtain ⟨hdeletions, hinsertions⟩ := textChanges_add_commonLength old new
    omega
  · intro profile f g m n hold hnew report
    constructor
    · intro hseverity
      refine rawChanged_ofDeclarations_iff.2 fun hsame => hseverity ?_
      have hempty : report.diff = .empty := (ofDeclarations_of_same hold hnew hsame).1
      rw [hempty]
      rfl
    · intro hflag
      refine ofDeclarations_of_same hold hnew (Classical.byContradiction fun hne => ?_)
      exact Bool.false_ne_true (hflag.symm.trans (rawChanged_ofDeclarations_iff.2 hne))

theorem loadDeclarations_of_swiftText {s : String} (h : ArtifactFormat.ofText s = .swiftText) :
    loadDeclarations s = .ok (.swiftText, .ofList (Swift.declarations s)) := by
  unfold loadDeclarations
  rw [h]
  rfl

/-- A source with an enumeration, of which not all lines end in the same way. -/
def lampSource : String := "public enum Lamp: String \x7b\r\n    case on\n\x7d\n"

/-- The source with the same line ends everywhere and another case. -/
def plainLampSource : String := "public enum Lamp: String \x7b\n    case off\n\x7d\n"

/-- The declaration of the lamp. -/
def lampWith (case : String) : List Declaration := [.enum ⟨"Lamp", none, none, [⟨case, case⟩]⟩]

theorem loadDeclarations_lampSource :
    loadDeclarations lampSource = .ok (.swiftText, .ofList (lampWith "on")) := by
  have hlamp : Swift.declarations lampSource = lampWith "on" := by decide +kernel
  rw [loadDeclarations_of_swiftText (by decide +kernel), hlamp]

theorem loadDeclarations_plainLampSource :
    loadDeclarations plainLampSource = .ok (.swiftText, .ofList (lampWith "off")) := by
  have hlamp : Swift.declarations plainLampSource = lampWith "off" := by decide +kernel
  rw [loadDeclarations_of_swiftText (by decide +kernel), hlamp]

/-- Two of three lines are replaced, and with them a case. -/
theorem rawChanged_exact_lamp :
    let on : DeclarationMap := .ofList (lampWith "on")
    let report := ChangeReport.ofDeclarations .default on (.ofList (lampWith "off"))
      lampSource plainLampSource
    let same := ChangeReport.ofDeclarations .default on on lampSource lampSource
    textChanges lampSource plainLampSource = ⟨2, 2⟩ ∧
      (∃ script, IsShortest script (linesOf lampSource) (linesOf plainLampSource) ∧
        Edit.stats script = ⟨2, 2⟩) ∧
      report.diff.severity = .major ∧ report.rawChanged = true ∧
      same.rawChanged = false ∧ same.diff = .empty ∧ same.oldChecksum = same.newChecksum := by
  intro on report same
  have hcounts : textChanges lampSource plainLampSource = ⟨2, 2⟩ := by decide +kernel
  have hseverity : report.diff.severity = .major := by decide +kernel
  have hnotPatch : report.diff.severity ≠ .patch := by
    rw [hseverity]
    decide
  have hflag : same.rawChanged = false := by decide +kernel
  obtain ⟨-, ⟨⟨script, hscript⟩, hstats⟩, -, -, -, hreports⟩ :=
    rawChanged_exact lampSource plainLampSource
  obtain ⟨-, -, -, -, -, hsame⟩ := rawChanged_exact lampSource lampSource
  have hchanged := (hreports .default _ _ _ _ loadDeclarations_lampSource
    loadDeclarations_plainLampSource).1 hnotPatch
  have hunchanged := (hsame .default _ _ _ _ loadDeclarations_lampSource
    loadDeclarations_lampSource).2 hflag
  exact ⟨hcounts, ⟨script, hscript, (hstats script hscript).trans hcounts⟩, hseverity, hchanged,
    hflag, hunchanged⟩

end ApiModels
