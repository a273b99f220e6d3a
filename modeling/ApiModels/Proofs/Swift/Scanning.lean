import ApiModels.Swift.Scanner

/-!
# Scanning texts with literals

What the scanner of comments and braces makes of a text that is put together from code and
literals.

* Code without quotes and without two slashes in a row is kept as it is
  (`dropCommentFrom_code_append`), a comment behind it is dropped (`dropComment_comment`), and it
  changes the depth only by its braces (`depthChangeFrom_code_of_noQuote`).
* A literal is passed as a whole, whatever it holds: braces and slashes in it do not count, and what
  follows it is scanned as code (`dropComment_append_literal`, `depthChange_append_literal`).
-/

namespace ApiModels.Swift

/-! ### Code -/

theorem next_code_of_ne {c : Char} (h : c ≠ '"') : ScanState.code.next c = .code := by
  simp [ScanState.next, h]

/-- Code without a comment is kept, and the scan goes on behind it, if no comment starts on the
border. -/
theorem dropCommentFrom_code_append {p s : List Char} (hquote : '"' ∉ p)
    (hcomment : ¬ ['/', '/'] <:+: p) (hborder : p.getLast? ≠ some '/' ∨ s.head? ≠ some '/') :
    dropCommentFrom .code (p ++ s) = p ++ dropCommentFrom .code s := by
  induction p with
  | nil => rfl
  | cons c p ih =>
    rw [List.mem_cons, not_or] at hquote
    have hrest : ¬ ['/', '/'] <:+: p := fun h => hcomment (h.trans (List.suffix_cons c p).isInfix)
    have hborderRest : p.getLast? ≠ some '/' ∨ s.head? ≠ some '/' := hborder.imp_left fun h hlast =>
      h (by rw [List.getLast?_cons, hlast, Option.getD_some])
    have hstart : ¬ (c = '/' ∧ (p ++ s).head? = some '/') := by
      rintro ⟨rfl, hhead⟩
      cases p with
      | nil => exact hborder.elim (fun h => h rfl) (fun h => h hhead)
      | cons d p =>
        cases hhead
        exact hcomment ⟨[], p, rfl⟩
    rw [List.cons_append, dropCommentFrom, if_neg (fun h => hstart h.2),
      next_code_of_ne (Ne.symm hquote.1), ih hquote.2 hrest hborderRest, List.cons_append]

theorem dropComment_comment {p : List Char} (hquote : '"' ∉ p) (hcomment : ¬ ['/', '/'] <:+: p)
    (hlast : p.getLast? ≠ some '/') (s : List Char) : dropComment (p ++ '/' :: '/' :: s) = p := by
  have hdropped : dropCommentFrom .code ('/' :: '/' :: s) = [] := by simp [dropCommentFrom]
  rw [dropComment, dropCommentFrom_code_append hquote hcomment (.inl hlast), hdropped,
    List.append_nil]

/-- By how much the braces of a text change the depth. -/
def braceSum : List Char → Int
  | [] => 0
  | c :: cs => braceValue c + braceSum cs

@[simp] theorem braceSum_append (cs ds : List Char) :
    braceSum (cs ++ ds) = braceSum cs + braceSum ds := by
  induction cs with
  | nil => simp [braceSum]
  | cons c cs ih =>
    rw [List.cons_append, braceSum, braceSum, ih, Int.add_assoc]

theorem braceSum_eq_zero {cs : List Char} (h : ∀ c ∈ cs, c ≠ '\x7b' ∧ c ≠ '\x7d') :
    braceSum cs = 0 := by
  induction cs with
  | nil => rfl
  | cons c cs ih =>
    have hc := h c List.mem_cons_self
    have hrest := ih fun d hd => h d (List.mem_cons_of_mem c hd)
    rw [braceSum, hrest, braceValue, if_neg hc.1, if_neg hc.2]
    rfl

theorem after_code_of_noQuote {p : List Char} (hquote : '"' ∉ p) :
    ScanState.code.after p = .code := by
  induction p with
  | nil => rfl
  | cons c p ih =>
    rw [List.mem_cons, not_or] at hquote
    have hstep : ScanState.code.after (c :: p) = (ScanState.code.next c).after p := rfl
    rw [hstep, next_code_of_ne (Ne.symm hquote.1), ih hquote.2]

theorem depthChangeFrom_code_of_noQuote {p : List Char} (hquote : '"' ∉ p) :
    depthChangeFrom .code p = braceSum p := by
  induction p with
  | nil => rfl
  | cons c p ih =>
    rw [List.mem_cons, not_or] at hquote
    rw [depthChangeFrom, if_pos rfl, next_code_of_ne (Ne.symm hquote.1), ih hquote.2, braceSum]

/-! ### Literals -/

/-- Line feeds, carriage returns and tabs are escaped by other characters. -/
theorem not_mem_escape {c : Char} (hc : c ∈ ['\n', '\r', '\t']) (cs : List Char) :
    c ∉ escape cs := by
  intro hmem
  obtain ⟨d, -, hd⟩ := List.mem_flatMap.1 hmem
  grind [escapeChar]

theorem dropCommentFrom_escapeChar (c : Char) (s : List Char) :
    dropCommentFrom .literal (escapeChar c ++ s) =
      escapeChar c ++ dropCommentFrom .literal s := by
  unfold escapeChar
  repeat' split
  all_goals simp_all [dropCommentFrom, ScanState.next]

theorem dropCommentFrom_escape (cs s : List Char) :
    dropCommentFrom .literal (escape cs ++ s) = escape cs ++ dropCommentFrom .literal s := by
  induction cs with
  | nil => rfl
  | cons c cs ih =>
    have hcons : escape (c :: cs) = escapeChar c ++ escape cs := rfl
    rw [hcons, List.append_assoc, dropCommentFrom_escapeChar, ih, List.append_assoc]

theorem dropCommentFrom_literal (cs s : List Char) :
    dropCommentFrom .code ('"' :: escape cs ++ '"' :: s) =
      '"' :: escape cs ++ '"' :: dropCommentFrom .code s := by
  have hopen : dropCommentFrom .code ('"' :: (escape cs ++ '"' :: s)) =
      '"' :: dropCommentFrom .literal (escape cs ++ '"' :: s) := by
    simp [dropCommentFrom, ScanState.next]
  have hclose : dropCommentFrom .literal ('"' :: s) = '"' :: dropCommentFrom .code s := by
    simp [dropCommentFrom, ScanState.next]
  rw [List.cons_append, hopen, dropCommentFrom_escape, hclose, List.cons_append]

theorem depthChangeFrom_escapeChar (c : Char) : depthChangeFrom .literal (escapeChar c) = 0 := by
  unfold escapeChar
  repeat' split
  all_goals simp_all [depthChangeFrom, ScanState.next]

theorem after_escapeChar (c : Char) : ScanState.literal.after (escapeChar c) = .literal := by
  have h := after_escape [c]
  rwa [show escape [c] = escapeChar c from List.append_nil _] at h

theorem depthChangeFrom_escape (cs : List Char) : depthChangeFrom .literal (escape cs) = 0 := by
  induction cs with
  | nil => rfl
  | cons c cs ih =>
    have hcons : escape (c :: cs) = escapeChar c ++ escape cs := rfl
    rw [hcons, depthChangeFrom_append, depthChangeFrom_escapeChar, after_escapeChar, ih]
    rfl

theorem depthChangeFrom_literal (cs s : List Char) :
    depthChangeFrom .code ('"' :: escape cs ++ '"' :: s) = depthChangeFrom .code s := by
  have hopen : depthChangeFrom .code ('"' :: (escape cs ++ '"' :: s)) =
      depthChangeFrom .literal (escape cs ++ '"' :: s) := by
    simp [depthChangeFrom, ScanState.next, braceValue]
  have hclose : depthChangeFrom .literal ('"' :: s) = depthChangeFrom .code s := by
    simp [depthChangeFrom, ScanState.next]
  rw [List.cons_append, hopen, depthChangeFrom_append, depthChangeFrom_escape, after_escape,
    hclose, Int.zero_add]

/-! ### Literals in code -/

theorem dropComment_append_literal {p : List Char} (hquote : '"' ∉ p)
    (hcomment : ¬ ['/', '/'] <:+: p) (cs s : List Char) :
    dropComment (p ++ '"' :: escape cs ++ '"' :: s) =
      p ++ '"' :: escape cs ++ '"' :: dropComment s := by
  unfold dropComment
  rw [List.append_assoc, dropCommentFrom_code_append hquote hcomment (.inr (by simp)),
    dropCommentFrom_literal, ← List.append_assoc]

theorem depthChange_append_literal {p : List Char} (hquote : '"' ∉ p) (cs s : List Char) :
    depthChange (p ++ '"' :: escape cs ++ '"' :: s) = depthChange p + depthChange s := by
  unfold depthChange
  rw [List.append_assoc, depthChangeFrom_append, after_code_of_noQuote hquote,
    depthChangeFrom_literal]

end ApiModels.Swift
