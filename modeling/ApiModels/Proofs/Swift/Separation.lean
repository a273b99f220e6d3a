import ApiModels.Proofs.Swift.Recovered

/-!
# Declarations do not mix

Between any two lines no type is open at depth 0, and the name of a nested type is there only at
depth 2 or more (`isSeparated_after`). So where a line opens a type at depth 0, no other type is
being read, and a type that is being read goes on being read until it is complete
(`IsSeparated.keepsType_line`). Hence the declarations of a source are, in their order, those of the
lines that open a type at depth 0 (`map_header_declarations`), and the declarations of two sources
that are put together are those of one and those of the other, if the first leaves nothing open
(`declarations_append`).
-/

namespace ApiModels

/-- The kind and the name of a declaration. -/
def Declaration.header (d : Declaration) : DeclarationKind × String := (d.kind, d.name)

namespace Swift

/-! ### Lines of code -/

/-- The code of a line; there is none in a doc line or if all is blank. -/
def codeOf? (text : List Char) : Option (List Char) :=
  if (docText? text).isSome || Text.allBlank (dropComment text) then none
  else some (dropComment text)

/-- The depth after a line. -/
def depthAfter (depth : Nat) (text : List Char) : Nat :=
  match codeOf? text with
  | some code => (depth + depthChange code).toNat
  | none => depth

/-- The type that a line opens at depth 0. -/
def openingAt? (depth : Nat) (text : List Char) : Option TypeOpening :=
  if depth = 0 then (codeOf? text).bind typeOpening? else none

/-- The types that are opened at depth 0, one for each line that opens one there, in their order. -/
def topLevelOpenings (depth : Nat) : List (List Char) → List TypeOpening
  | [] => []
  | text :: texts =>
    (openingAt? depth text).toList ++ topLevelOpenings (depthAfter depth text) texts

/-- The kind and the name that an opening gives. -/
def TypeOpening.header (opening : TypeOpening) : DeclarationKind × String :=
  (opening.kind, String.ofList opening.name)

namespace Recovery

/-- After some lines from the start. -/
def after (texts : List (List Char)) : Recovery := texts.foldl line start

/-- What holds between any two lines. -/
structure IsSeparated (r : Recovery) : Prop where
  /-- At depth 0 no type is open. -/
  opened : r.depth = 0 → r.opened = none
  /-- The name of a nested type is there only at depth 2 or more. -/
  nested : r.nested ≠ none → 2 ≤ r.depth

/-- A type that is being read goes on being read, or it becomes a declaration. -/
def KeepsType (r next : Recovery) : Prop :=
  ∀ t, r.opened = some t → ∃ t' : OpenType, t'.opening = t.opening ∧ t'.docs = t.docs ∧
    ((next.opened = some t' ∧ next.complete = r.complete) ∨
      (next.opened = none ∧ next.complete = t'.toDeclaration :: r.complete))

/-- At most the type that is open has changed, apart from its opening and its doc lines, and the
name of the nested type. -/
def ChangesBody (r next : Recovery) : Prop :=
  ∃ (change : OpenType → OpenType) (nested : Option (List Char)),
    (∀ t, (change t).opening = t.opening ∧ (change t).docs = t.docs) ∧
      next = { r with opened := r.opened.map change, nested := nested }

variable {r : Recovery}

theorem line_of_code {text code : List Char} (h : codeOf? text = some code) (r : Recovery) :
    r.line text = (r.declare code).move code := by
  unfold codeOf? at h
  split at h
  · cases h
  · next hcode =>
    cases h
    rw [Bool.or_eq_true, not_or] at hcode
    have hdoc : docText? text = none := by simpa using hcode.1
    simp only [line, hdoc, hcode.2, Bool.false_eq_true, if_false]

theorem exists_line_of_no_code {text : List Char} (h : codeOf? text = none) (r : Recovery) :
    ∃ docs, r.line text = { r with docs := docs } := by
  unfold line
  cases hdoc : docText? text with
  | some doc => exact ⟨_, rfl⟩
  | none =>
    have hblank : Text.allBlank (dropComment text) = true := by
      simpa [codeOf?, hdoc] using h
    exact ⟨r.docs, by simp only [hblank, if_true]⟩

/-! ### Steps -/

theorem opening_addMember (docs : List (List Char)) (code : List Char) (t : OpenType) :
    (addMember docs code t).opening = t.opening := by
  unfold addMember
  split
  · split <;> rfl
  · rfl

theorem changesBody_nested (r : Recovery) (nested : Option (List Char)) :
    r.ChangesBody { r with nested := nested } := by
  have hid : r.opened.map id = r.opened := congrFun Option.map_id_fun _
  exact ⟨id, nested, fun _ => ⟨rfl, rfl⟩, by rw [hid]⟩

theorem changesBody_typeBody (r : Recovery) (code : List Char) :
    r.ChangesBody (r.typeBody code) := by
  unfold typeBody
  split
  · exact r.changesBody_nested _
  · exact ⟨addMember r.docs code, r.nested,
      fun t => ⟨opening_addMember r.docs code t, docs_addMember r.docs code t⟩, rfl⟩

theorem changesBody_nestedBody (r : Recovery) (code : List Char) :
    r.ChangesBody (r.nestedBody code) := by
  unfold nestedBody
  split
  · exact ⟨addWireNames code, r.nested, fun _ => ⟨rfl, rfl⟩, rfl⟩
  · exact r.changesBody_nested r.nested

/-- **What a line of code declares**: it opens a type at depth 0, or at most it changes the type
that is open. -/
theorem declare_cases (r : Recovery) (code : List Char) :
    (∃ opening, r.depth = 0 ∧ typeOpening? code = some opening ∧
      r.declare code = { r with opened := some ⟨opening, r.docs, [], [], []⟩ }) ∨
    ((r.depth = 0 → typeOpening? code = none) ∧ r.ChangesBody (r.declare code)) := by
  unfold declare
  split
  · next hdepth =>
    unfold topLevel
    cases hopening : typeOpening? code with
    | some opening => exact .inl ⟨opening, hdepth, rfl, rfl⟩
    | none => exact .inr ⟨fun _ => rfl, r.changesBody_nested r.nested⟩
  · next hdepth => exact .inr ⟨fun h => by omega, r.changesBody_typeBody code⟩
  · next hdepth => exact .inr ⟨fun h => by omega, r.changesBody_nestedBody code⟩
  · next hzero _ _ => exact .inr ⟨fun h => absurd h hzero, r.changesBody_nested r.nested⟩

theorem completeType_of_none (h : r.opened = none) : r.completeType = r := by
  unfold completeType
  rw [h]

theorem opened_completeType (r : Recovery) : r.completeType.opened = none := by
  unfold completeType
  split
  · rfl
  · assumption

theorem finish_completeType (r : Recovery) : r.completeType.finish = r.finish := by
  rw [finish, completeType_of_none r.opened_completeType, finish]

theorem completeType_frame (r : Recovery) :
    r.completeType.depth = r.depth ∧ r.completeType.nested = r.nested := by
  unfold completeType
  split <;> exact ⟨rfl, rfl⟩

/-- **Moving on to the next depth** completes the open type at depth 0. -/
theorem move_cases (r : Recovery) (code : List Char) :
    ((r.depth + depthChange code).toNat = 0 ∧
      r.move code = completeType { r with depth := 0, docs := [], nested := none }) ∨
    ∃ nested, 0 < (r.depth + depthChange code).toNat ∧
      (nested ≠ none → 2 ≤ (r.depth + depthChange code).toNat) ∧
      r.move code =
        { r with depth := (r.depth + depthChange code).toNat, docs := [], nested := nested } := by
  unfold move
  generalize (r.depth + depthChange code).toNat = depth
  by_cases hzero : depth = 0
  · subst hzero
    exact .inl ⟨rfl, rfl⟩
  · refine .inr ⟨if depth < 2 then none else r.nested, Nat.pos_of_ne_zero hzero, fun hnested => ?_,
      if_neg hzero⟩
    exact Nat.le_of_not_lt fun hlt => hnested (if_pos hlt)

theorem depth_move (r : Recovery) (code : List Char) :
    (r.move code).depth = (r.depth + depthChange code).toNat := by
  rcases r.move_cases code with ⟨hzero, hmove⟩ | ⟨nested, -, -, hmove⟩
  · rw [hmove, (completeType_frame _).1, hzero]
  · rw [hmove]

theorem isSeparated_move (r : Recovery) (code : List Char) : (r.move code).IsSeparated := by
  rcases r.move_cases code with ⟨-, hmove⟩ | ⟨nested, hpos, hnested, hmove⟩
  · rw [hmove]
    refine ⟨fun _ => opened_completeType _, fun h => ?_⟩
    rw [(completeType_frame _).2] at h
    exact absurd rfl h
  · rw [hmove]
    exact ⟨fun hzero => absurd hzero (Nat.ne_of_gt hpos), hnested⟩

/-- No declaration is lost or added when the depth changes. -/
theorem finish_move (r : Recovery) (code : List Char) : (r.move code).finish = r.finish := by
  rcases r.move_cases code with ⟨-, hmove⟩ | ⟨nested, -, -, hmove⟩
  · rw [hmove, finish_completeType, finish, finish]
    unfold completeType
    cases r.opened <;> rfl
  · rw [hmove, finish, finish]
    unfold completeType
    cases r.opened <;> rfl

theorem depth_line (r : Recovery) (text : List Char) :
    (r.line text).depth = depthAfter r.depth text := by
  unfold depthAfter
  cases hcode : codeOf? text with
  | none =>
    obtain ⟨docs, hline⟩ := exists_line_of_no_code hcode r
    rw [hline]
  | some code =>
    rw [line_of_code hcode, depth_move]
    rcases r.declare_cases code with ⟨opening, -, -, hdeclare⟩ | ⟨-, change, nested, -, hdeclare⟩
    · rw [hdeclare]
    · rw [hdeclare]

/-- **Every line keeps declarations apart.** -/
theorem IsSeparated.line (h : r.IsSeparated) (text : List Char) : (r.line text).IsSeparated := by
  cases hcode : codeOf? text with
  | none =>
    obtain ⟨docs, hline⟩ := exists_line_of_no_code hcode r
    rw [hline]
    exact ⟨h.opened, h.nested⟩
  | some code =>
    rw [line_of_code hcode]
    exact isSeparated_move _ code

theorem IsSeparated.foldl_line (h : r.IsSeparated) (texts : List (List Char)) :
    (texts.foldl Recovery.line r).IsSeparated := by
  induction texts generalizing r with
  | nil => exact h
  | cons text texts ih => exact ih (h.line text)

theorem isSeparated_after (texts : List (List Char)) : (after texts).IsSeparated :=
  IsSeparated.foldl_line ⟨fun _ => rfl, fun h => absurd rfl h⟩ texts

theorem IsSeparated.nested_eq_none (h : r.IsSeparated) (hdepth : r.depth < 2) :
    r.nested = none := by
  by_cases hnone : r.nested = none
  · exact hnone
  · exact absurd (h.nested hnone) (Nat.not_le_of_lt hdepth)

theorem depth_foldl_line (r : Recovery) (texts : List (List Char)) :
    (texts.foldl line r).depth = texts.foldl depthAfter r.depth := by
  induction texts generalizing r with
  | nil => rfl
  | cons text texts ih => rw [List.foldl_cons, ih, depth_line, List.foldl_cons]

/-- **The type that is being read is not replaced.** -/
theorem IsSeparated.keepsType_line (h : r.IsSeparated) (text : List Char) :
    r.KeepsType (r.line text) := by
  intro t ht
  cases hcode : codeOf? text with
  | none =>
    obtain ⟨docs, hline⟩ := exists_line_of_no_code hcode r
    rw [hline]
    exact ⟨t, rfl, rfl, .inl ⟨ht, rfl⟩⟩
  | some code =>
    rw [line_of_code hcode]
    rcases r.declare_cases code with ⟨opening, hzero, -, -⟩ | ⟨-, change, nested, hchange, hdeclare⟩
    · -- At depth 0 there is no type to be replaced.
      cases ht.symm.trans (h.opened hzero)
    · refine ⟨change t, (hchange t).1, (hchange t).2, ?_⟩
      rcases (r.declare code).move_cases code with ⟨-, hmove⟩ | ⟨nested', -, -, hmove⟩
      · right
        rw [hmove, hdeclare, ht]
        exact ⟨rfl, rfl⟩
      · left
        rw [hmove, hdeclare, ht]
        exact ⟨rfl, rfl⟩

/-! ### One declaration for each line that opens a type -/

theorem header_toDeclaration (t : OpenType) : t.toDeclaration.header = t.opening.header := by
  unfold OpenType.toDeclaration Declaration.header TypeOpening.header
  cases hkind : t.opening.kind <;> rfl

theorem map_header_finish (r : Recovery) : r.finish.map Declaration.header =
    r.complete.reverse.map Declaration.header ++ r.opened.toList.map (·.opening.header) := by
  unfold finish completeType
  cases r.opened with
  | none => simp
  | some t => simp [header_toDeclaration]

/-- **A line adds a declaration if it opens a type at depth 0**, and no other. -/
theorem IsSeparated.map_header_finish_line (h : r.IsSeparated) (text : List Char) :
    (r.line text).finish.map Declaration.header = r.finish.map Declaration.header ++
      (openingAt? r.depth text).toList.map TypeOpening.header := by
  unfold openingAt?
  cases hcode : codeOf? text with
  | none =>
    obtain ⟨docs, hline⟩ := exists_line_of_no_code hcode r
    rw [hline, map_header_finish, map_header_finish]
    simp
  | some code =>
    rw [line_of_code hcode, finish_move]
    rcases r.declare_cases code with ⟨opening, hzero, hopening, hdeclare⟩ |
      ⟨hnone, change, nested, hchange, hdeclare⟩
    · rw [hdeclare, map_header_finish, map_header_finish, h.opened hzero, hzero]
      simp [hopening]
    · have hheader : (r.opened.map change).toList.map (·.opening.header) =
          r.opened.toList.map (·.opening.header) := by
        cases r.opened with
        | none => rfl
        | some t => simp [(hchange t).1]
      have hnothing : (if r.depth = 0 then (some code).bind typeOpening? else none) = none := by
        split
        · next hzero => exact hnone hzero
        · rfl
      rw [hdeclare, map_header_finish, map_header_finish, hheader, hnothing]
      simp

theorem IsSeparated.map_header_finish_foldl (h : r.IsSeparated) (texts : List (List Char)) :
    (texts.foldl Recovery.line r).finish.map Declaration.header =
      r.finish.map Declaration.header ++
        (topLevelOpenings r.depth texts).map TypeOpening.header := by
  induction texts generalizing r with
  | nil => exact (List.append_nil _).symm
  | cons text texts ih =>
    rw [List.foldl_cons, ih (h.line text), h.map_header_finish_line, depth_line, topLevelOpenings,
      List.map_append, List.append_assoc]

/-! ### Texts that are put together -/

/-- The same place with other declarations before those that are complete. -/
def onto (r : Recovery) (before : List Declaration) : Recovery :=
  { r with complete := r.complete ++ before }

theorem completeType_onto (r : Recovery) (before : List Declaration) :
    (r.onto before).completeType = r.completeType.onto before := by
  obtain ⟨complete, depth, docs, opened, nested⟩ := r
  cases opened <;> rfl

theorem nestedBody_onto (r : Recovery) (before : List Declaration) (code : List Char) :
    (r.onto before).nestedBody code = (r.nestedBody code).onto before := by
  have hnested : (r.onto before).nested = r.nested := rfl
  unfold nestedBody
  rw [hnested]
  split <;> rfl

theorem declare_onto (r : Recovery) (before : List Declaration) (code : List Char) :
    (r.onto before).declare code = (r.declare code).onto before := by
  have hdepth : (r.onto before).depth = r.depth := rfl
  unfold declare
  rw [hdepth]
  split
  · unfold topLevel
    cases typeOpening? code <;> rfl
  · unfold typeBody
    cases typeOpening? code <;> rfl
  · exact r.nestedBody_onto before code
  · rfl

theorem move_onto (r : Recovery) (before : List Declaration) (code : List Char) :
    (r.onto before).move code = (r.move code).onto before := by
  have hdepth : (r.onto before).depth = r.depth := rfl
  unfold move
  simp only [hdepth]
  split
  · exact completeType_onto { r with
      depth := (r.depth + depthChange code).toNat
      docs := []
      nested := if (r.depth + depthChange code).toNat < 2 then none else r.nested } before
  · rfl

/-- **What a line does depends on no declaration that is complete.** -/
theorem line_onto (r : Recovery) (before : List Declaration) (text : List Char) :
    (r.onto before).line text = (r.line text).onto before := by
  unfold line
  split
  · rfl
  · simp only
    split
    · rfl
    · rw [declare_onto, move_onto]

theorem foldl_line_onto (r : Recovery) (before : List Declaration) (texts : List (List Char)) :
    texts.foldl line (r.onto before) = (texts.foldl line r).onto before := by
  induction texts generalizing r with
  | nil => rfl
  | cons text texts ih => rw [List.foldl_cons, line_onto, ih, List.foldl_cons]

theorem finish_onto (r : Recovery) (before : List Declaration) :
    (r.onto before).finish = before.reverse ++ r.finish := by
  rw [finish, completeType_onto, finish, onto, List.reverse_append]

/-- Where nothing is open, the run goes on as from the start. -/
theorem IsSeparated.eq_onto (h : r.IsSeparated) (hdepth : r.depth = 0) (hdocs : r.docs = []) :
    r = start.onto r.finish.reverse := by
  have hopened := h.opened hdepth
  have hnested := h.nested_eq_none (by omega)
  rw [finish, completeType_of_none hopened, List.reverse_reverse]
  obtain ⟨complete, depth, docs, opened, nested⟩ := r
  cases hdepth
  cases hdocs
  cases hopened
  cases hnested
  rfl

end Recovery

open Recovery

theorem map_header_declarations (source : String) :
    (declarations source).map Declaration.header =
      (topLevelOpenings 0 (Text.lines source.toList)).map TypeOpening.header :=
  (isSeparated_after []).map_header_finish_foldl _

theorem declarations_append {a b : String} (hfeed : a.toList.getLast? = some '\n')
    (hdepth : (after (Text.lines a.toList)).depth = 0)
    (hdocs : (after (Text.lines a.toList)).docs = []) :
    declarations (a ++ b) = declarations a ++ declarations b := by
  have hfirst : after (Text.lines a.toList) = start.onto (declarations a).reverse :=
    (isSeparated_after _).eq_onto hdepth hdocs
  unfold after at hfirst
  rw [declarations, String.toList_append, Text.lines_append hfeed, List.foldl_append, hfirst,
    foldl_line_onto, finish_onto, List.reverse_reverse]
  rfl

/-- **Declarations are kept apart.** After any lines no type is open at depth 0, and the name of a
nested type is there only at depth 2 or more. A type that is being read is never replaced. The
declarations of a source are, in their order, those of the lines that open a type at depth 0; and
they are put together as the sources are, if the first source leaves nothing open. -/
theorem declarations_separate :
    (∀ texts, (after texts).IsSeparated) ∧
    (∀ texts text, (after texts).KeepsType ((after texts).line text)) ∧
    (∀ texts, (after texts).depth = texts.foldl depthAfter 0) ∧
    (∀ source, (declarations source).map Declaration.header =
      (topLevelOpenings 0 (Text.lines source.toList)).map TypeOpening.header) ∧
    ∀ a b : String, a.toList.getLast? = some '\n' →
      (after (Text.lines a.toList)).depth = 0 → (after (Text.lines a.toList)).docs = [] →
        declarations (a ++ b) = declarations a ++ declarations b :=
  ⟨isSeparated_after, fun texts => (isSeparated_after texts).keepsType_line,
    depth_foldl_line start, map_header_declarations, fun _ _ => declarations_append⟩

/-- A type on one line after a stray brace, and a type that never ends. -/
theorem declarations_separate_stray :
    let a := "\x7d\nstruct Pet \x7b\x7d // done \x7b\n"
    let b := "enum Kind \x7b\n    case cat"
    a.toList.getLast? = some '\n' ∧ (after (Text.lines a.toList)).depth = 0 ∧
      (after (Text.lines a.toList)).docs = [] ∧
      declarations (a ++ b) =
        [.record ⟨"Pet", none, none, [], false⟩, .enum ⟨"Kind", none, none, [⟨"cat", "cat"⟩]⟩] := by
  intro a b
  have hfeed : a.toList.getLast? = some '\n' := by decide +kernel
  have hdepth : (after (Text.lines a.toList)).depth = 0 := by decide +kernel
  have hdocs : (after (Text.lines a.toList)).docs = [] := by decide +kernel
  have hfirst : declarations a = [.record ⟨"Pet", none, none, [], false⟩] := by decide +kernel
  have hsecond : declarations b = [.enum ⟨"Kind", none, none, [⟨"cat", "cat"⟩]⟩] := by
    decide +kernel
  obtain ⟨-, -, -, -, happend⟩ := declarations_separate
  refine ⟨hfeed, hdepth, hdocs, ?_⟩
  rw [happend a b hfeed hdepth hdocs, hfirst, hsecond]
  rfl

end Swift

end ApiModels
