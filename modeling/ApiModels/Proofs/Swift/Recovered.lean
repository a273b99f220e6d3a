import ApiModels.Proofs.Swift.Writable
import ApiModels.Swift.Recovery

/-!
# What is recovered from a source

Whatever text is read, no declaration that is recovered from it has a source that a doc line could
not name (`isSourceName_of_mem_declarations`): a doc line is in one line, and what it names is
trimmed. The reader keeps this from line to line (`Recovery.IsNamed.line`).
-/

namespace ApiModels.Swift

open Text (isBlank trim)

/-! ### Lines of a text -/

theorem feed_not_mem_dropReturn {line : List Char} (h : '\n' ∉ line) :
    '\n' ∉ Text.dropReturn line := by
  unfold Text.dropReturn
  split
  · next rest heq =>
    intro hmem
    refine h (List.mem_reverse.1 ?_)
    rw [heq]
    exact List.mem_cons_of_mem _ (List.mem_reverse.1 hmem)
  · exact h

theorem feed_not_mem_linesOfPieces {pieces : List (List Char)}
    (h : ∀ piece ∈ pieces, '\n' ∉ piece) : ∀ line ∈ Text.linesOfPieces pieces, '\n' ∉ line := by
  fun_induction Text.linesOfPieces pieces with
  | case1 => exact fun _ hmem => nomatch hmem
  | case2 => exact fun _ hmem => nomatch hmem
  | case3 last => exact h
  | case4 piece pieces _ ih =>
    intro line hline
    rcases List.mem_cons.1 hline with rfl | hline
    · exact feed_not_mem_dropReturn (h piece List.mem_cons_self)
    · exact ih (fun other hother => h other (List.mem_cons_of_mem piece hother)) line hline

theorem feed_not_mem_lines {cs line : List Char} (h : line ∈ Text.lines cs) : '\n' ∉ line := by
  refine feed_not_mem_linesOfPieces (fun piece hpiece hfeed => ?_) line h
  exact absurd (Text.not_isSeparator_of_mem_fields hpiece hfeed) (by decide)

/-! ### Sources in doc lines -/

theorem mem_of_mem_docText? {line doc : List Char} (h : docText? line = some doc) {c : Char}
    (hc : c ∈ doc) : c ∈ line := by
  obtain ⟨text, htext, rfl⟩ := Option.map_eq_some_iff.1 h
  have hline : ∀ d ∈ text, d ∈ line := by
    intro d hd
    refine (Text.trimStart_suffix line).subset ?_
    rw [Text.after?_eq_some_iff.1 htext]
    exact List.mem_append_right _ hd
  refine hline c ?_
  split at hc
  · next d rest =>
    split at hc
    · exact List.mem_cons_of_mem d ((Text.trimEnd_isPrefix rest).subset hc)
    · exact (Text.trimEnd_isPrefix (d :: rest)).subset hc
  · exact hc

theorem isSourceName_of_sourceAfter? {header : String} {doc source : List Char}
    (hdoc : '\n' ∉ doc) (h : sourceAfter? header doc = some source) :
    IsSourceName (String.ofList source) := by
  unfold sourceAfter? at h
  split at h
  · next c rest hafter =>
    split at h
    · next hnames =>
      cases h
      have hne : trim rest ≠ [] := by simpa using (Bool.and_eq_true_iff.1 hnames).2
      have hfeed : '\n' ∉ trim rest := by
        intro hmem
        refine hdoc ?_
        rw [Text.after?_eq_some_iff.1 hafter]
        exact List.mem_append_right _ (List.mem_cons_of_mem c (Text.mem_of_mem_trim hmem))
      refine ⟨⟨by simpa using hne, ?_, ?_⟩, ?_⟩
      · rwa [String.toList_ofList]
      · rw [String.toList_ofList]
        exact fun _ => Text.not_blank_of_mem_getLast?_trimEnd
      · rw [String.toList_ofList]
        exact fun _ => Text.not_blank_of_mem_head?_trim
    · cases h
  · cases h

namespace OpenType

theorem isSourceName_sourceName {t : OpenType} (h : ∀ doc ∈ t.docs, '\n' ∉ doc) {source : List Char}
    (hsource : t.sourceName = some source) : IsSourceName (String.ofList source) := by
  obtain ⟨doc, hdoc, hsource⟩ := Option.bind_eq_some_iff.1 hsource
  have hfeed := h doc (List.mem_of_head? hdoc)
  rcases Option.or_eq_some_iff.1 hsource with hmodel | ⟨-, henum⟩
  · exact isSourceName_of_sourceAfter? hfeed hmodel
  · exact isSourceName_of_sourceAfter? hfeed henum

theorem sourceName_toDeclaration (t : OpenType) :
    t.toDeclaration.sourceName = t.sourceName.map String.ofList := by
  unfold toDeclaration
  simp only
  split <;> rfl

end OpenType

/-! ### The invariant of the reader -/

namespace Recovery

/-- No doc line that waits has a line feed, and all sources of complete declarations can be
named. -/
structure IsNamed (r : Recovery) : Prop where
  docs : ∀ doc ∈ r.docs, '\n' ∉ doc
  opened : ∀ t ∈ r.opened, ∀ doc ∈ t.docs, '\n' ∉ doc
  complete : ∀ d ∈ r.complete, ∀ source ∈ d.sourceName, IsSourceName source

variable {r : Recovery}

theorem IsNamed.completeType (h : r.IsNamed) : r.completeType.IsNamed := by
  unfold Recovery.completeType
  split
  · next t ht =>
    refine ⟨h.docs, fun _ hmem => (nomatch hmem), fun d hd source hsource => ?_⟩
    rcases List.mem_cons.1 hd with rfl | hd
    · rw [OpenType.sourceName_toDeclaration] at hsource
      obtain ⟨name, hname, rfl⟩ := Option.map_eq_some_iff.1 hsource
      exact OpenType.isSourceName_sourceName (h.opened t ht) hname
    · exact h.complete d hd source hsource
  · exact h

/-- A change of the open type that leaves its doc lines keeps the invariant. -/
theorem IsNamed.map_opened (h : r.IsNamed) {change : OpenType → OpenType}
    (hdocs : ∀ t, (change t).docs = t.docs) :
    { r with opened := r.opened.map change }.IsNamed := by
  refine ⟨h.docs, fun t ht => ?_, h.complete⟩
  obtain ⟨before, hbefore, rfl⟩ := Option.map_eq_some_iff.1 ht
  rw [hdocs]
  exact h.opened before hbefore

theorem docs_addMember (docs : List (List Char)) (code : List Char) (t : OpenType) :
    (addMember docs code t).docs = t.docs := by
  unfold addMember
  split
  · split <;> rfl
  · rfl

theorem IsNamed.declare (h : r.IsNamed) (code : List Char) : (r.declare code).IsNamed := by
  unfold Recovery.declare
  split
  · unfold topLevel
    split
    · refine ⟨h.docs, ?_, h.complete⟩
      rintro t ⟨⟩
      exact h.docs
    · exact h
  · unfold typeBody
    split
    · exact ⟨h.docs, h.opened, h.complete⟩
    · exact h.map_opened (docs_addMember r.docs code)
  · unfold nestedBody
    split
    · exact h.map_opened fun _ => rfl
    · exact h
  · exact h

theorem IsNamed.move (h : r.IsNamed) (code : List Char) : (r.move code).IsNamed := by
  have hmoved : ∀ depth nested, { r with depth := depth, docs := [], nested := nested }.IsNamed :=
    fun _ _ => ⟨fun _ hmem => (nomatch hmem), h.opened, h.complete⟩
  unfold Recovery.move
  simp only
  split
  · exact (hmoved _ _).completeType
  · exact hmoved _ _

/-- **The reader keeps the invariant from line to line.** -/
theorem IsNamed.line (h : r.IsNamed) {text : List Char} (htext : '\n' ∉ text) :
    (r.line text).IsNamed := by
  unfold Recovery.line
  split
  · next doc hdoc =>
    refine ⟨fun other hother => ?_, h.opened, h.complete⟩
    rcases List.mem_append.1 hother with hother | hother
    · exact h.docs other hother
    · cases List.mem_singleton.1 hother
      exact fun hfeed => htext (mem_of_mem_docText? hdoc hfeed)
  · simp only
    split
    · exact h
    · exact (h.declare _).move _

theorem IsNamed.foldl_line {lines : List (List Char)} (h : r.IsNamed)
    (hlines : ∀ line ∈ lines, '\n' ∉ line) : (lines.foldl Recovery.line r).IsNamed := by
  induction lines generalizing r with
  | nil => exact h
  | cons line lines ih =>
    exact ih (h.line (hlines line List.mem_cons_self)) fun other hother =>
      hlines other (List.mem_cons_of_mem line hother)

end Recovery

/-- **Every source that is recovered can be named in a doc line.** -/
theorem isSourceName_of_mem_declarations {text : String} {d : Declaration}
    (h : d ∈ declarations text) : ∀ source ∈ d.sourceName, IsSourceName source := by
  have hstart : Recovery.start.IsNamed := by
    constructor
    · exact fun _ hmem => nomatch hmem
    · exact fun _ hmem => nomatch hmem
    · exact fun _ hmem => nomatch hmem
  have hlines : ∀ line ∈ Text.lines text.toList, '\n' ∉ line := fun _ => feed_not_mem_lines
  have hend := (hstart.foldl_line hlines).completeType
  exact hend.complete d (List.mem_reverse.1 h)

end ApiModels.Swift
