import ApiModels.Json.Reader
import ApiModels.Toml.Basic

/-!
# TOML strings

Basic strings stand between double quotes and have escapes, literal strings between single quotes
and have none. Three quotes enclose a string of several lines: a line break right after the opening
quotes is dropped, every line break is read as a line feed, and one or two quotes may stand
anywhere, also right before the closing ones.
-/

namespace ApiModels.Toml

/-- A tab or a space. -/
def isSpace (c : Char) : Bool := c == '\t' || c == ' '

/-- The text after tabs and spaces. -/
def skipSpaces (cs : List Char) : List Char := cs.dropWhile isSpace

/-- Whether a character may stand on a line: a tab, or no control character. -/
def isLineChar (c : Char) : Bool := c == '\t' || (' ' ≤ c && c ≠ '\x7f')

/-- The text after a line break, if one follows. -/
def lineBreak? : List Char → Option (List Char)
  | '\n' :: rest => some rest
  | '\r' :: '\n' :: rest => some rest
  | _ => none

/-- The text after spaces and line breaks. -/
def skipSpacesAndBreaks : List Char → List Char
  | '\r' :: '\n' :: rest => skipSpacesAndBreaks rest
  | c :: rest => if isSpace c || c == '\n' then skipSpacesAndBreaks rest else c :: rest
  | [] => []

/-- The character that the given number of hexadecimal digits names, unless it is a surrogate or
too large. -/
def readCodePoint (width : Nat) : Reader Char := fun cs =>
  let digits := cs.take width
  let n := digits.foldl (fun n d => n * 16 + (Json.hexValue? d).getD 0) 0
  if digits.length = width ∧ digits.all (fun d => (Json.hexValue? d).isSome) ∧ n.isValidChar then
    some (Char.ofNat n, cs.drop width)
  else none

/-- The character of an escape, after its backslash. -/
def readEscape : Reader Char
  | 'b' :: rest => some ('\x08', rest)
  | 't' :: rest => some ('\t', rest)
  | 'n' :: rest => some ('\n', rest)
  | 'f' :: rest => some ('\x0c', rest)
  | 'r' :: rest => some ('\r', rest)
  | '"' :: rest => some ('"', rest)
  | '\\' :: rest => some ('\\', rest)
  | 'u' :: rest => readCodePoint 4 rest
  | 'U' :: rest => readCodePoint 8 rest
  | _ => none

/-- The characters of a basic string after its opening quote; `read` holds those so far, last
first. -/
def basicChars : Nat → List Char → Reader (List Char)
  | 0, _, _ => none
  | _ + 1, read, '"' :: rest => some (read.reverse, rest)
  | fuel + 1, read, '\\' :: rest => do
    let (c, rest) ← readEscape rest
    basicChars fuel (c :: read) rest
  | fuel + 1, read, c :: rest => if isLineChar c then basicChars fuel (c :: read) rest else none
  | _ + 1, _, [] => none

/-- The characters of a literal string after its opening quote. -/
def literalChars : Reader (List Char) := fun cs =>
  let text := cs.takeWhile fun c => isLineChar c && c ≠ '\''
  match cs.drop text.length with
  | '\'' :: rest => some (text, rest)
  | _ => none

/-- The closing quotes of a string of several lines: three, after at most two that belong to the
string. Gives how many belong to it. -/
def closingQuotes (quote : Char) : Reader Nat := fun cs =>
  let count := (cs.takeWhile (· == quote)).length
  if 3 ≤ count ∧ count ≤ 5 then some (count - 3, cs.drop count) else none

/-- The text after a backslash at the end of a line: blanks up to the next character that is
none. -/
def afterContinuation? (cs : List Char) : Option (List Char) :=
  (lineBreak? (skipSpaces cs)).map skipSpacesAndBreaks

/-- The characters of a string of several lines, in which a backslash starts an escape if `escapes`
holds. -/
def longChars (quote : Char) (escapes : Bool) : Nat → List Char → Reader (List Char)
  | 0, _, _ => none
  | _ + 1, _, [] => none
  | fuel + 1, read, c :: cs =>
    if c = quote then
      let count := ((c :: cs).takeWhile (· == quote)).length
      if count < 3 then
        longChars quote escapes fuel (List.replicate count quote ++ read) ((c :: cs).drop count)
      else do
        let (own, rest) ← closingQuotes quote (c :: cs)
        return (read.reverse ++ List.replicate own quote, rest)
    else if escapes && c = '\\' then
      match afterContinuation? cs with
      | some rest => longChars quote escapes fuel read rest
      | none => do
        let (c, rest) ← readEscape cs
        longChars quote escapes fuel (c :: read) rest
    else
      match lineBreak? (c :: cs) with
      | some rest => longChars quote escapes fuel ('\n' :: read) rest
      | none => if isLineChar c then longChars quote escapes fuel (c :: read) cs else none

/-- A string of several lines after its opening quotes. -/
def readLong (quote : Char) (escapes : Bool) : Reader (List Char) := fun cs =>
  let cs := (lineBreak? cs).getD cs
  longChars quote escapes (cs.length + 1) [] cs

/-- A string on one line, after its opening quote. -/
def readShort (quote : Char) : Reader (List Char) := fun cs =>
  if quote = '"' then basicChars (cs.length + 1) [] cs else literalChars cs

/-- A string of any form. -/
def readText : Reader (List Char)
  | '"' :: '"' :: '"' :: rest => readLong '"' true rest
  | '\'' :: '\'' :: '\'' :: rest => readLong '\'' false rest
  | '"' :: rest => readShort '"' rest
  | '\'' :: rest => readShort '\'' rest
  | _ => none

end ApiModels.Toml
