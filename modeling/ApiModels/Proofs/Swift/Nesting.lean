import ApiModels.Proofs.Swift.Separation

/-!
# Nested scopes do not leak

A scope in the body of a type (a nested type, a function, an initializer) is a run of lines: the
first one declares no member, from then on the depth is at least 2 (`ReturnsFrom`), and the last
line leads back to depth 1. All that it holds is passed over: inside of it the open type does not
change (`IsInside.line`), and after it the recovery stands where it stood
(`foldl_line_scope`). So a scope can be put into a source, or taken out of it, and the
declarations are the same (`declarations_insert_scope`).
-/

namespace ApiModels.Swift

/-- A line that declares nothing in the body of a type, be it a record or an enumeration, and that
does not start the names in the data. -/
structure IsScopeStart (line : List Char) : Prop where
  doc : docText? line = none
  property : property? (dropComment line) = none
  cases : lineCases (dropComment line) = []
  type : ∀ opening, typeOpening? (dropComment line) = some opening →
    opening.name ≠ codingKeys.toList

/-- Some lines lead from a depth back to depth 1, and the depth is at least 2 before each of
them. -/
def ReturnsFrom (depth : Nat) : List (List Char) → Prop
  | [] => depth = 1
  | line :: lines => 2 ≤ depth ∧ ReturnsFrom (depthAfter depth line) lines

instance decidableReturnsFrom :
    (depth : Nat) → (lines : List (List Char)) → Decidable (ReturnsFrom depth lines)
  | depth, [] => inferInstanceAs (Decidable (depth = 1))
  | depth, line :: lines =>
    have := decidableReturnsFrom (depthAfter depth line) lines
    inferInstanceAs (Decidable (2 ≤ depth ∧ ReturnsFrom (depthAfter depth line) lines))

theorem ReturnsFrom.pos {depth : Nat} {lines : List (List Char)} (h : ReturnsFrom depth lines) :
    0 < depth := by
  cases lines with
  | nil => exact Nat.lt_of_lt_of_eq Nat.one_pos h.symm
  | cons line lines => exact Nat.lt_of_lt_of_le Nat.two_pos h.1

namespace Recovery

variable {r s : Recovery}

/-- Compared with `r`, no declaration is complete that was not and the open type is the same; and
the recovery does not stand among the names in the data. -/
structure IsInside (r s : Recovery) : Prop where
  complete : s.complete = r.complete
  opened : s.opened = r.opened
  nested : s.nested ≠ some codingKeys.toList

theorem move_of_pos {code : List Char} (h : 0 < (r.depth + depthChange code).toNat) :
    r.move code = { r with
      depth := (r.depth + depthChange code).toNat
      docs := []
      nested := if (r.depth + depthChange code).toNat < 2 then none else r.nested } :=
  if_neg (Nat.ne_of_gt h)

theorem IsInside.move (h : r.IsInside s) {code : List Char}
    (hpos : 0 < (s.depth + depthChange code).toNat) : r.IsInside (s.move code) := by
  rw [move_of_pos hpos]
  refine ⟨h.complete, h.opened, ?_⟩
  dsimp only
  split
  · exact fun hnone => nomatch hnone
  · exact h.nested

theorem depthAfter_of_code {text code : List Char} (h : codeOf? text = some code) (depth : Nat) :
    depthAfter depth text = (depth + depthChange code).toNat := by
  unfold depthAfter
  rw [h]

/-! ### The first line -/

theorem addMember_eq_self {code : List Char} (hproperty : property? code = none)
    (hcases : lineCases code = []) (docs : List (List Char)) (t : OpenType) :
    addMember docs code t = t := by
  unfold addMember
  split
  · rw [hproperty]
  · rw [hcases, List.map_nil, List.append_nil]

theorem isInside_typeBody {line : List Char} (h : IsScopeStart line) (hnested : r.nested = none) :
    r.IsInside (r.typeBody (dropComment line)) := by
  unfold typeBody
  split
  · next opening hopening =>
    exact ⟨rfl, rfl, fun hname => h.type opening hopening (Option.some.inj hname)⟩
  · have hmember : addMember r.docs (dropComment line) = id :=
      funext (addMember_eq_self h.property h.cases r.docs)
    rw [hmember, Option.map_id_fun]
    refine ⟨rfl, rfl, fun hname => ?_⟩
    cases hnested.symm.trans hname

theorem eq_dropComment_of_codeOf? {text code : List Char} (h : codeOf? text = some code) :
    code = dropComment text := by
  unfold codeOf? at h
  split at h
  · cases h
  · exact (Option.some.inj h).symm

theorem isInside_line_start {line : List Char} (h : IsScopeStart line) (hdepth : r.depth = 1)
    (hnested : r.nested = none) (hpos : 0 < depthAfter 1 line) : r.IsInside (r.line line) := by
  cases hcode : codeOf? line with
  | none =>
    obtain ⟨docs, hline⟩ := exists_line_of_no_code hcode r
    rw [hline]
    exact ⟨rfl, rfl, fun hname => nomatch hnested.symm.trans hname⟩
  | some code =>
    have hdeclare : r.declare code = r.typeBody (dropComment line) := by
      unfold declare
      rw [hdepth, eq_dropComment_of_codeOf? hcode]
      rfl
    have hkept : (r.typeBody (dropComment line)).depth = 1 := by
      unfold typeBody
      split <;> exact hdepth
    rw [depthAfter_of_code hcode] at hpos
    rw [line_of_code hcode, hdeclare]
    exact (isInside_typeBody h hnested).move (by rwa [hkept])

/-! ### The lines inside -/

theorem IsInside.declare (h : r.IsInside s) (hdepth : 2 ≤ s.depth) (code : List Char) :
    s.declare code = s := by
  unfold Recovery.declare
  split
  · next hzero => omega
  · next hone => omega
  · unfold nestedBody
    rw [if_neg h.nested]
  · rfl

theorem IsInside.line (h : r.IsInside s) (hdepth : 2 ≤ s.depth) {text : List Char}
    (hpos : 0 < depthAfter s.depth text) : r.IsInside (s.line text) := by
  cases hcode : codeOf? text with
  | none =>
    obtain ⟨docs, hline⟩ := exists_line_of_no_code hcode s
    rw [hline]
    exact ⟨h.complete, h.opened, h.nested⟩
  | some code =>
    rw [line_of_code hcode, h.declare hdepth]
    rw [depthAfter_of_code hcode] at hpos
    exact h.move hpos

theorem IsInside.foldl_line (h : r.IsInside s) {lines : List (List Char)}
    (hlines : ReturnsFrom s.depth lines) : r.IsInside (lines.foldl Recovery.line s) := by
  induction lines generalizing s with
  | nil => exact h
  | cons text lines ih =>
    obtain ⟨hdepth, hrest⟩ := hlines
    rw [← depth_line] at hrest
    refine ih (h.line hdepth ?_) hrest
    rw [← depth_line]
    exact hrest.pos

/-! ### The last line -/

theorem docs_move (r : Recovery) (code : List Char) : (r.move code).docs = [] := by
  rcases r.move_cases code with ⟨-, hmove⟩ | ⟨nested, -, -, hmove⟩
  · rw [hmove]
    unfold completeType
    split <;> rfl
  · rw [hmove]

/-- A line that changes the depth is a line of code, so no doc line waits after it. -/
theorem docs_line_of_ne {text : List Char} (h : depthAfter r.depth text ≠ r.depth) :
    (r.line text).docs = [] := by
  cases hcode : codeOf? text with
  | none =>
    unfold depthAfter at h
    rw [hcode] at h
    exact absurd rfl h
  | some code => rw [line_of_code hcode, docs_move]

theorem docs_line_of_no_doc {text : List Char} (h : docText? text = none) (hdocs : r.docs = []) :
    (r.line text).docs = [] := by
  unfold line
  rw [h]
  dsimp only
  split
  · exact hdocs
  · exact docs_move _ _

theorem docs_foldl_line {lines : List (List Char)} (hlines : ReturnsFrom s.depth lines)
    (hdocs : s.depth = 1 → s.docs = []) : (lines.foldl Recovery.line s).docs = [] := by
  induction lines generalizing s with
  | nil => exact hdocs hlines
  | cons text lines ih =>
    obtain ⟨hdepth, hrest⟩ := hlines
    rw [← depth_line] at hrest
    refine ih hrest fun hone => docs_line_of_ne ?_
    rw [depth_line] at hone
    omega

theorem depth_foldl_line_of_returnsFrom {lines : List (List Char)}
    (hlines : ReturnsFrom s.depth lines) : (lines.foldl Recovery.line s).depth = 1 := by
  induction lines generalizing s with
  | nil => exact hlines
  | cons text lines ih =>
    obtain ⟨-, hrest⟩ := hlines
    rw [← depth_line] at hrest
    exact ih hrest

/-- **After a scope the recovery stands where it stood.** -/
theorem IsSeparated.foldl_line_scope (h : r.IsSeparated) (hdepth : r.depth = 1)
    (hdocs : r.docs = []) {first : List Char} {rest : List (List Char)}
    (hfirst : IsScopeStart first) (hrest : ReturnsFrom (depthAfter 1 first) rest) :
    (first :: rest).foldl Recovery.line r = r := by
  have hnested := h.nested_eq_none (by omega)
  have hstart := isInside_line_start hfirst hdepth hnested hrest.pos
  rw [← hdepth, ← depth_line] at hrest
  have hinside := hstart.foldl_line hrest
  have hend := depth_foldl_line_of_returnsFrom hrest
  have hwaiting := docs_foldl_line hrest fun _ => docs_line_of_no_doc hfirst.doc hdocs
  have hnestedEnd := ((h.line first).foldl_line rest).nested_eq_none (by omega)
  rw [List.foldl_cons]
  generalize rest.foldl Recovery.line (r.line first) = s at hinside hend hwaiting hnestedEnd ⊢
  obtain ⟨complete, depth, docs, opened, nested⟩ := r
  obtain ⟨complete', depth', docs', opened', nested'⟩ := s
  cases hdepth
  cases hdocs
  cases hnested
  cases hend
  cases hwaiting
  cases hnestedEnd
  cases hinside.complete
  cases hinside.opened
  rfl

end Recovery

open Recovery

/-- **Nested scopes do not leak.** Where the depth is 1 and no doc line waits, a block of lines may
be put into a source, if its first line declares no member and opens no coding keys, the depth
before each other line is at least 2, and the last line leads back to depth 1. The declarations are
the same, whatever the block holds. A scope that is closed on its first line is such a block; and
the last line of any other one changes the depth, so it is no doc line. -/
theorem declarations_insert_scope {source inserted : String} {before after : List (List Char)}
    {first : List Char} {rest : List (List Char)}
    (hsource : Text.lines source.toList = before ++ after)
    (hinserted : Text.lines inserted.toList = before ++ (first :: rest) ++ after)
    (hdepth : (Recovery.after before).depth = 1) (hdocs : (Recovery.after before).docs = [])
    (hfirst : IsScopeStart first) (hrest : ReturnsFrom (depthAfter 1 first) rest) :
    declarations inserted = declarations source := by
  have hscope : (first :: rest).foldl line (Recovery.after before) = Recovery.after before :=
    (isSeparated_after before).foldl_line_scope hdepth hdocs hfirst hrest
  rw [declarations, declarations, hsource, hinserted, List.foldl_append, List.foldl_append,
    List.foldl_append]
  exact congrArg (fun r => (after.foldl line r).finish) hscope

/-- A nested type with a property, a quoted brace, a commented one, coding keys of its own and a doc
line at its end. -/
theorem declarations_insert_scope_frame :
    let before := ["struct Pet \x7b", "    let id: Int"].map String.toList
    let first := "    final class Frame \x7b // \x7b\x7b".toList
    let rest := ["        let id: String = \"\x7d\\\"\x7d\"", "        enum CodingKeys \x7b",
      "            case id = \"ID\" // \x7d", "        \x7d", "        /// Done",
      "    \x7d"].map String.toList
    let after := ["    enum CodingKeys: String \x7b", "        case id = \"_id\"", "    \x7d",
      "\x7d"].map String.toList
    let source := String.ofList (unlines (before ++ after))
    let inserted := String.ofList (unlines (before ++ (first :: rest) ++ after))
    (Recovery.after before).depth = 1 ∧ (Recovery.after before).docs = [] ∧
      IsScopeStart first ∧ ReturnsFrom (depthAfter 1 first) rest ∧
      declarations inserted = declarations source ∧ declarations source =
        [.record ⟨"Pet", none, none, [⟨"id", "_id", "Int", false, none⟩], false⟩] := by
  intro before first rest after source inserted
  have hdepth : (Recovery.after before).depth = 1 := by decide +kernel
  have hdocs : (Recovery.after before).docs = [] := by decide +kernel
  have hopening : typeOpening? (dropComment first) = some ⟨.struct, "Frame".toList, []⟩ := by
    decide +kernel
  have hfirst : IsScopeStart first := by
    refine ⟨by decide +kernel, by decide +kernel, by decide +kernel, fun opening h => ?_⟩
    cases hopening.symm.trans h
    decide
  have hrest : ReturnsFrom (depthAfter 1 first) rest := by decide +kernel
  have hline : ∀ line ∈ before ++ (first :: rest) ++ after, '\n' ∉ line ∧ '\r' ∉ line := by
    decide +kernel
  have hlines : ∀ lines ⊆ before ++ (first :: rest) ++ after,
      Text.lines (String.ofList (unlines lines)).toList = lines := by
    intro lines hsubset
    rw [String.toList_ofList]
    exact Text.lines_flatMap_append_singleton fun line hmem =>
      Text.isLine_of_not_mem (hline line (hsubset hmem)).1 (hline line (hsubset hmem)).2
  have hsource : Text.lines source.toList = before ++ after :=
    hlines _ (List.append_subset.2 ⟨List.Subset.trans (List.subset_append_left _ _)
      (List.subset_append_left _ _), List.subset_append_right _ _⟩)
  have hinserted := hlines (before ++ (first :: rest) ++ after) (List.Subset.refl _)
  refine ⟨hdepth, hdocs, hfirst, hrest, ?_, ?_⟩
  · exact declarations_insert_scope hsource hinserted hdepth hdocs hfirst hrest
  · rw [declarations, hsource]
    decide +kernel

end ApiModels.Swift
