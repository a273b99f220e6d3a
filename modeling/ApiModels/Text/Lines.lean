import ApiModels.Text.Blank

/-!
# Lines of a text

Two ways to cut a text into lines.

* `lines` drops the terminators: a line feed, or a carriage return and a line feed, ends a line,
  and what follows the last line feed is a line only if it is not empty.
* `terminatedLines` keeps them: a line ends after a line feed, after a carriage return, or after
  the two together, and the lines put together are the text (`flatten_terminatedLines`).
-/

namespace ApiModels.Text

/-- A line without the carriage return it ends with. -/
def dropReturn (line : List Char) : List Char :=
  match line.reverse with
  | '\r' :: rest => rest.reverse
  | _ => line

/-- The lines among pieces that a line feed followed, all but the last. -/
def linesOfPieces : List (List Char) → List (List Char)
  | [] => []
  | [last] => if last.isEmpty then [] else [last]
  | piece :: pieces => dropReturn piece :: linesOfPieces pieces

/-- The lines of a text without their terminators. -/
def lines (cs : List Char) : List (List Char) := linesOfPieces (fields (· == '\n') cs)

/-- The lines of a text with their terminators. -/
def terminatedLines (cs : List Char) : List (List Char) := go [] cs
where
  /-- `line` holds the characters of the current line, last first. -/
  go (line : List Char) : List Char → List (List Char)
    | [] => if line.isEmpty then [] else [line.reverse]
    | '\r' :: '\n' :: cs => ('\n' :: '\r' :: line).reverse :: go [] cs
    | c :: cs =>
      if c = '\n' || c = '\r' then (c :: line).reverse :: go [] cs else go (c :: line) cs

theorem flatten_terminatedLines_go (line cs : List Char) :
    (terminatedLines.go line cs).flatten = line.reverse ++ cs := by
  fun_induction terminatedLines.go line cs with
  | case1 line h => simp_all
  | case2 => simp_all
  | case3 line cs ih => simp [ih]
  | case4 line c cs _ h ih => simp [ih]
  | case5 line c cs _ h ih => simp [ih]

/-- The lines with their terminators make up the text. -/
theorem flatten_terminatedLines (cs : List Char) : (terminatedLines cs).flatten = cs := by
  simp [terminatedLines, flatten_terminatedLines_go]

end ApiModels.Text
