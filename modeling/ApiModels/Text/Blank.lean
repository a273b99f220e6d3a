/-!
# Blank characters

The white space of the Unicode standard, trimming, and the splitting of a text at separators.

* `isBlank` is the property `White_Space`;
* `trim` removes blanks at both ends (`trimStart`, `trimEnd` at one);
* `fields` cuts a text at every separator and keeps empty pieces, so that its pieces and the
  separators make up the text again; `words` are its nonempty pieces between blanks.
-/

namespace ApiModels.Text

/-- The Unicode property `White_Space`. -/
def isBlank (c : Char) : Bool :=
  let n := c.toNat
  (9 ≤ n && n ≤ 13) || n == 0x20 || n == 0x85 || n == 0xA0 || n == 0x1680 ||
    (0x2000 ≤ n && n ≤ 0x200A) || n == 0x2028 || n == 0x2029 || n == 0x202F ||
    n == 0x205F || n == 0x3000

/-! ### Trimming -/

/-- The text without the blanks it starts with. -/
def trimStart (cs : List Char) : List Char := cs.dropWhile isBlank

/-- The text without the blanks it ends with. -/
def trimEnd (cs : List Char) : List Char := (cs.reverse.dropWhile isBlank).reverse

/-- The text without the blanks at its ends. -/
def trim (cs : List Char) : List Char := trimEnd (trimStart cs)

/-- A text is blank if all its characters are. -/
def allBlank (cs : List Char) : Bool := cs.all isBlank

@[simp] theorem trimStart_nil : trimStart [] = [] := rfl

@[simp] theorem trimEnd_nil : trimEnd [] = [] := rfl

/-! ### Splitting -/

/-- The pieces of a text between separators, empty ones included; never the empty list. -/
def fields (isSeparator : Char → Bool) : List Char → List (List Char)
  | [] => [[]]
  | c :: cs =>
    if isSeparator c then [] :: fields isSeparator cs
    else match fields isSeparator cs with
      | [] => [[c]]
      | piece :: pieces => (c :: piece) :: pieces

theorem fields_ne_nil (isSeparator : Char → Bool) (cs : List Char) :
    fields isSeparator cs ≠ [] := by
  cases cs with
  | nil => simp [fields]
  | cons c cs =>
    rw [fields]
    split
    · simp
    · split <;> simp

/-- The nonempty pieces of a text between separators. -/
def segments (isSeparator : Char → Bool) (cs : List Char) : List (List Char) :=
  (fields isSeparator cs).filter (!·.isEmpty)

/-- The words of a text: its nonempty pieces between blanks. -/
def words (cs : List Char) : List (List Char) := segments isBlank cs

/-- The pieces in order, with the separator between neighbours. -/
def join (separator : List Char) : List (List Char) → List Char
  | [] => []
  | [piece] => piece
  | piece :: pieces => piece ++ separator ++ join separator pieces

/-! ### Initial segments -/

/-- What follows `start` in a text that starts with it. -/
def after? (start : List Char) (cs : List Char) : Option (List Char) :=
  match start, cs with
  | [], cs => some cs
  | _ :: _, [] => none
  | a :: start, c :: cs => if a = c then after? start cs else none

@[simp] theorem after?_nil (cs : List Char) : after? [] cs = some cs := by
  cases cs <;> rfl

theorem after?_eq_some_iff {start cs rest : List Char} :
    after? start cs = some rest ↔ cs = start ++ rest := by
  induction start generalizing cs with
  | nil => simp [eq_comm]
  | cons a start ih =>
    cases cs with
    | nil => simp [after?]
    | cons c cs =>
      rw [after?]
      split
      · next h => simp [h, ih]
      · next h => simp [Ne.symm h]

/-- The text with every occurrence of `old` replaced, read from the left without overlap. -/
def replaceAll (old new : List Char) (cs : List Char) : List Char :=
  go 0 cs
where
  /-- `skip` characters still belong to an occurrence that was replaced. -/
  go (skip : Nat) : List Char → List Char
    | [] => []
    | c :: cs =>
      match skip with
      | skip + 1 => go skip cs
      | 0 =>
        if !old.isEmpty && old.isPrefixOf (c :: cs) then new ++ go (old.length - 1) cs
        else c :: go 0 cs

end ApiModels.Text
