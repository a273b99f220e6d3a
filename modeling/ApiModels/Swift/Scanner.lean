import ApiModels.Swift.Literal

/-!
# Scanning a line of Swift

Comments and braces count only outside of string literals. A line is scanned from the left with the
state in which the next character is read: as code, inside a literal, or right after a backslash in
one.
-/

namespace ApiModels.Swift

/-- How the next character of a line is read. -/
inductive ScanState where
  | code
  | literal
  | escaped
  deriving DecidableEq, Repr

/-- The state after a character. -/
def ScanState.next : ScanState → Char → ScanState
  | .code, c => if c = '"' then .literal else .code
  | .literal, c => if c = '\\' then .escaped else if c = '"' then .code else .literal
  | .escaped, _ => .literal

/-- The state after a text. -/
def ScanState.after (state : ScanState) (cs : List Char) : ScanState :=
  cs.foldl ScanState.next state

/-- The text up to a comment. -/
def dropCommentFrom (state : ScanState) : List Char → List Char
  | [] => []
  | c :: cs =>
    if state = .code ∧ c = '/' ∧ cs.head? = some '/' then []
    else c :: dropCommentFrom (state.next c) cs

/-- A line without the comment at its end. -/
def dropComment (line : List Char) : List Char := dropCommentFrom .code line

/-- By how much a character changes the depth. -/
def braceValue (c : Char) : Int := if c = '\x7b' then 1 else if c = '\x7d' then -1 else 0

/-- By how much a text changes the depth. -/
def depthChangeFrom (state : ScanState) : List Char → Int
  | [] => 0
  | c :: cs =>
    (if state = .code then braceValue c else 0) + depthChangeFrom (state.next c) cs

/-- By how much a line changes the depth: its opening braces less its closing ones. -/
def depthChange (line : List Char) : Int := depthChangeFrom .code line

theorem depthChangeFrom_append (state : ScanState) (cs ds : List Char) :
    depthChangeFrom state (cs ++ ds) =
      depthChangeFrom state cs + depthChangeFrom (state.after cs) ds := by
  induction cs generalizing state with
  | nil => simp [depthChangeFrom, ScanState.after]
  | cons c cs ih =>
    rw [List.cons_append, depthChangeFrom, depthChangeFrom, ih, Int.add_assoc]
    rfl

/-- An escaped text is passed inside of a literal. -/
theorem after_escape (cs : List Char) : ScanState.literal.after (escape cs) = .literal := by
  induction cs with
  | nil => rfl
  | cons c cs ih =>
    rw [show escape (c :: cs) = escapeChar c ++ escape cs from rfl, ScanState.after,
      List.foldl_append]
    refine Eq.trans (congrArg (List.foldl ScanState.next · (escape cs)) ?_) ih
    unfold escapeChar
    repeat' split
    all_goals simp_all [ScanState.next]

end ApiModels.Swift
