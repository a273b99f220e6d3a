import ApiModels.Proofs.Swift.Scanning
import ApiModels.Proofs.Text.Blank
import ApiModels.Swift.Recovery
import ApiModels.Swift.Source

/-!
# Doc lines and lines of code

What the reader finds out about a line before it looks at what the line declares. A doc line gives
its text back (`docText?_docLine`). `IsCode` says that a line is code as a whole, without a comment,
and by how much it changes the depth; a line is code if it has neither quotes nor slashes
(`isCode_of_plain`), or has them only in a literal at its end (`isCode_of_literal`).
-/

namespace ApiModels.Swift

open Text (isBlank trim trimStart trimEnd)

/-! ### Doc lines -/

theorem isBlank_of_mem_replicate {n : Nat} : ∀ c ∈ List.replicate n ' ', isBlank c = true := by
  intro c hc
  rw [List.eq_of_mem_replicate hc]
  rfl

theorem docText?_docLine {indent : Nat} {text : String}
    (h : ∀ c ∈ text.toList.getLast?, isBlank c = false) :
    docText? (docLine indent text) = some text.toList := by
  have hstart : trimStart (docLine indent text) = "///".toList ++ ' ' :: text.toList := by
    rw [docLine, List.append_assoc, Text.trimStart_append_of_blank isBlank_of_mem_replicate]
    rfl
  have hblank : isBlank ' ' = true := rfl
  rw [docText?, hstart, Text.after?_eq_some_iff.2 rfl, Option.map_some]
  simp only [hblank, if_true, Text.trimEnd_eq_self h]

theorem docText?_eq_none {line rest : List Char} {c : Char} (hline : trimStart line = c :: rest)
    (hc : c ≠ '/') : docText? line = none := by
  have hafter : Text.after? "///".toList (c :: rest) = none := by
    rw [show "///".toList = '/' :: "//".toList from rfl, Text.after?, if_neg (Ne.symm hc)]
  rw [docText?, hline, hafter, Option.map_none]

/-! ### Lines of code -/

/-- A line is read as code, as a whole, and changes the depth by `change`. -/
structure IsCode (line : List Char) (change : Int) : Prop where
  docText? : docText? line = none
  dropComment : dropComment line = line
  allBlank : Text.allBlank line = false
  depthChange : depthChange line = change

theorem allBlank_eq_false {line rest : List Char} {c : Char} (hline : trimStart line = c :: rest) :
    Text.allBlank line = false := by
  rw [Text.allBlank, List.all_eq_false]
  have hsuffix : trimStart line <:+ line := List.dropWhile_suffix _
  have hc : isBlank c = false := by
    have := List.head?_dropWhile_not isBlank line
    rw [← trimStart, hline] at this
    simpa using this
  exact ⟨c, hsuffix.subset (hline ▸ List.mem_cons_self), by simp [hc]⟩

theorem not_infix_of_not_mem {line : List Char} (h : '/' ∉ line) : ¬ ['/', '/'] <:+: line :=
  fun hinfix => h (List.IsInfix.subset hinfix List.mem_cons_self)

theorem isCode_of_plain {line rest : List Char} {c : Char} (hline : trimStart line = c :: rest)
    (hquote : '"' ∉ line) (hslash : '/' ∉ line) : IsCode line (braceSum line) where
  docText? := by
    refine docText?_eq_none hline ?_
    rintro rfl
    have hsuffix : trimStart line <:+ line := List.dropWhile_suffix _
    exact hslash (hsuffix.subset (hline ▸ List.mem_cons_self))
  dropComment := by
    have h := dropCommentFrom_code_append (s := []) hquote (not_infix_of_not_mem hslash)
      (.inr (by simp))
    simpa [dropCommentFrom, Swift.dropComment] using h
  allBlank := allBlank_eq_false hline
  depthChange := depthChangeFrom_code_of_noQuote hquote

/-- A line without quotes and slashes, up to a literal at its end, is code. -/
theorem isCode_of_literal {code rest : List Char} {c : Char} (hline : trimStart code = c :: rest)
    (hquote : '"' ∉ code) (hslash : '/' ∉ code) (value : List Char) :
    IsCode (code ++ '"' :: escape value ++ ['"']) (braceSum code) where
  docText? := by
    have hc : c ≠ '/' := by
      rintro rfl
      have hsuffix : trimStart code <:+ code := List.dropWhile_suffix _
      exact hslash (hsuffix.subset (hline ▸ List.mem_cons_self))
    have hstart : trimStart (code ++ '"' :: escape value ++ ['"']) =
        c :: (rest ++ '"' :: escape value ++ ['"']) := by
      rw [List.append_assoc, trimStart, List.dropWhile_append, ← trimStart, hline]
      simp
    exact docText?_eq_none hstart hc
  dropComment := dropComment_append_literal hquote (not_infix_of_not_mem hslash) value []
  allBlank := by
    have h := allBlank_eq_false hline
    rw [Text.allBlank] at h ⊢
    rw [List.all_append, List.all_append, h, Bool.false_and, Bool.false_and]
  depthChange := by
    have hcode : Swift.depthChange code = braceSum code := depthChangeFrom_code_of_noQuote hquote
    rw [depthChange_append_literal hquote, hcode]
    exact Int.add_zero _

end ApiModels.Swift
