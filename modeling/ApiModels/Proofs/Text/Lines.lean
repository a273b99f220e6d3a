import ApiModels.Proofs.Text.Blank
import ApiModels.Text.Lines

/-!
# Cutting a text into the lines that it was made of

Lines that are each ended by a line feed are the lines of the text that they make up, if none of
them holds a line feed or ends in a carriage return (`lines_flatMap_append_singleton`). After a line
feed the lines of a text start anew (`lines_append`).

Lines that keep their terminators are the pieces of the text that end in one
(`isCutInto_terminatedLines`).
-/

namespace ApiModels.Text

/-- A line that a line feed can end: there is none in it, and no carriage return at its end. -/
structure IsLine (line : List Char) : Prop where
  noFeed : '\n' ∉ line
  noReturn : line.getLast? ≠ some '\r'

theorem isLine_of_not_mem {line : List Char} (hfeed : '\n' ∉ line) (hreturn : '\r' ∉ line) :
    IsLine line :=
  ⟨hfeed, fun hlast => hreturn (List.mem_of_getLast? hlast)⟩

/-- Only the end of a line decides what stands at its end. -/
theorem IsLine.append {before line : List Char} (hbefore : '\n' ∉ before) (hne : line ≠ [])
    (h : IsLine line) : IsLine (before ++ line) := by
  refine ⟨fun hmem => (List.mem_append.1 hmem).elim hbefore h.noFeed, ?_⟩
  rw [List.getLast?_append, List.getLast?_eq_some_getLast hne, Option.some_or,
    ← List.getLast?_eq_some_getLast hne]
  exact h.noReturn

theorem dropReturn_eq_self {line : List Char} (h : line.getLast? ≠ some '\r') :
    dropReturn line = line := by
  unfold dropReturn
  split
  · next rest heq =>
    refine absurd ?_ h
    rw [List.getLast?_eq_head?_reverse, heq, List.head?_cons]
  · rfl

theorem linesOfPieces_append_nil {lines : List (List Char)}
    (h : ∀ line ∈ lines, line.getLast? ≠ some '\r') : linesOfPieces (lines ++ [[]]) = lines := by
  induction lines with
  | nil => rfl
  | cons line lines ih =>
    have hline := h line List.mem_cons_self
    have hrest := ih fun l hl => h l (List.mem_cons_of_mem line hl)
    rw [List.cons_append, linesOfPieces, dropReturn_eq_self hline, hrest]
    simp

/-- **The lines of a text are those that it was made of.** -/
theorem lines_flatMap_append_singleton {lines : List (List Char)}
    (h : ∀ line ∈ lines, IsLine line) :
    Text.lines (lines.flatMap (· ++ ['\n'])) = lines := by
  have hpieces : ∀ line ∈ lines, ∀ c ∈ line, (c == '\n') = false := by
    intro line hline c hc
    rw [beq_eq_false_iff_ne]
    rintro rfl
    exact (h line hline).noFeed hc
  rw [Text.lines, fields_flatMap_append_singleton (by rfl) hpieces,
    linesOfPieces_append_nil fun line hline => (h line hline).noReturn]

/-! ### Texts after a line feed -/

theorem linesOfPieces_append (pieces : List (List Char)) {others : List (List Char)}
    (hothers : others ≠ []) :
    linesOfPieces (pieces ++ others) = pieces.map dropReturn ++ linesOfPieces others := by
  induction pieces with
  | nil => rfl
  | cons piece pieces ih =>
    obtain ⟨next, rest, hnext⟩ := List.exists_cons_of_ne_nil
      (List.append_ne_nil_of_right_ne_nil pieces hothers)
    rw [List.cons_append, List.map_cons, List.cons_append, ← ih, hnext]
    rfl

/-- **After a line feed the lines start anew.** -/
theorem lines_append {cs : List Char} (hcs : cs.getLast? = some '\n') (ds : List Char) :
    Text.lines (cs ++ ds) = Text.lines cs ++ Text.lines ds := by
  obtain ⟨front, rfl⟩ := List.getLast?_eq_some_iff.1 hcs
  have hpieces : ∀ rest : List Char, Text.lines (front ++ '\n' :: rest) =
      (fields (· == '\n') front).map dropReturn ++ Text.lines rest := by
    intro rest
    rw [Text.lines, fields_append_separator (by rfl),
      linesOfPieces_append _ (fields_ne_nil _ rest), Text.lines]
  have hnone : Text.lines [] = [] := rfl
  rw [List.append_assoc, List.singleton_append, hpieces, hpieces, hnone, List.append_nil]

theorem IsLine.lines_append {line : List Char} (h : IsLine line) (cs : List Char) :
    Text.lines (line ++ '\n' :: cs) = line :: Text.lines cs := by
  have hline : Text.lines (line ++ ['\n']) = [line] := by
    have hone := lines_flatMap_append_singleton (List.forall_mem_singleton.2 h)
    rwa [List.flatMap_singleton] at hone
  rw [← List.singleton_append, ← List.append_assoc, Text.lines_append List.getLast?_concat, hline,
    List.singleton_append]

/-! ### Lines with their terminators -/

/-- What ends a line before the rest of a text: a line feed, a carriage return, or the two
together. -/
inductive IsTerminator : List Char → List Char → Prop
  | feed (rest : List Char) : IsTerminator ['\n'] rest
  | returnFeed (rest : List Char) : IsTerminator ['\r', '\n'] rest
  | loneReturn {rest : List Char} (h : rest.head? ≠ some '\n') : IsTerminator ['\r'] rest

/-- A text is cut into lines with their terminators, of which the last one may have none. -/
inductive IsCutInto : List Char → List (List Char) → Prop
  | nil : IsCutInto [] []
  | last {body : List Char} (hne : body ≠ []) (hbody : '\n' ∉ body ∧ '\r' ∉ body) :
    IsCutInto body [body]
  | line {body terminator rest : List Char} {lines : List (List Char)}
      (hbody : '\n' ∉ body ∧ '\r' ∉ body) (hterminator : IsTerminator terminator rest)
      (hrest : IsCutInto rest lines) :
    IsCutInto (body ++ terminator ++ rest) ((body ++ terminator) :: lines)

/-- The lines of a text of which the first characters are read, the last of them first. -/
theorem isCutInto_go {line : List Char} (h : '\n' ∉ line ∧ '\r' ∉ line) (cs : List Char) :
    IsCutInto (line.reverse ++ cs) (terminatedLines.go line cs) := by
  have hbody : ∀ {line : List Char}, '\n' ∉ line ∧ '\r' ∉ line →
      '\n' ∉ line.reverse ∧ '\r' ∉ line.reverse := by simp
  fun_induction terminatedLines.go line cs with
  | case1 line hempty =>
    rw [List.isEmpty_iff.1 hempty]
    exact .nil
  | case2 line hne =>
    rw [List.append_nil]
    exact .last (by simpa using hne) (hbody h)
  | case3 line cs ih =>
    have hline := IsCutInto.line (hbody h) (.returnFeed cs) (ih (by simp))
    simpa using hline
  | case4 line c cs hpair hend ih =>
    have hterminator : IsTerminator [c] cs := by
      rcases Bool.or_eq_true_iff.1 hend with hfeed | hreturn
      · rw [of_decide_eq_true hfeed]
        exact .feed cs
      · rw [of_decide_eq_true hreturn]
        refine .loneReturn fun hhead => ?_
        -- A line feed behind it would belong to the line too.
        obtain ⟨rest, hrest⟩ := List.head?_eq_some_iff.1 hhead
        exact hpair rest (of_decide_eq_true hreturn) hrest
    have hline := IsCutInto.line (hbody h) hterminator (ih (by simp))
    simpa using hline
  | case5 line c cs _ hother ih =>
    rw [Bool.or_eq_true, decide_eq_true_eq, decide_eq_true_eq, not_or] at hother
    have hline : '\n' ∉ c :: line ∧ '\r' ∉ c :: line := by
      simp only [List.mem_cons, not_or]
      exact ⟨⟨Ne.symm hother.1, h.1⟩, Ne.symm hother.2, h.2⟩
    have hrest := ih hline
    rwa [List.reverse_cons, List.append_assoc, List.singleton_append] at hrest

/-- **A text is cut into its lines after every terminator.** -/
theorem isCutInto_terminatedLines (cs : List Char) : IsCutInto cs (terminatedLines cs) :=
  isCutInto_go ⟨List.not_mem_nil, List.not_mem_nil⟩ cs

end ApiModels.Text
