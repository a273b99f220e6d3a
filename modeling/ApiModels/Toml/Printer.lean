import ApiModels.Toml.Text

/-!
# Writing TOML

Strings, lists of strings and tables as they are written. A string is written in the first form that
needs no escape (`StringForm.ofText`); a list with several items is written over several lines.
-/

namespace ApiModels.Toml

/-! ### Strings -/

/-- The forms of a string. -/
inductive StringForm where
  | basic
  | literal
  | longBasic
  | longLiteral
  deriving DecidableEq, Repr

/-- The length of the longest run of a character. -/
def longestRun (c : Char) : List Char → Nat
  | [] => 0
  | first :: rest => max ((first :: rest).takeWhile (· == c)).length (longestRun c rest)

/-- The form in which a text is written. With control characters it needs escapes; then a line break
decides between one line and several. -/
def StringForm.ofText (cs : List Char) : StringForm :=
  let needsEscapes := cs.any fun c => !isLineChar c && c != '\n'
  let isPlain := !needsEscapes && !cs.contains '\\'
  let isBroken := cs.contains '\n'
  if isPlain && !isBroken && longestRun '"' cs == 0 then .basic
  else if !needsEscapes && !isBroken && longestRun '\'' cs == 0 then .literal
  else if isPlain && longestRun '"' cs ≤ 2 then .longBasic
  else if !needsEscapes && longestRun '\'' cs ≤ 2 then .longLiteral
  else if isBroken then .longBasic
  else .basic

/-- The quotes on either side. -/
def StringForm.quotes : StringForm → List Char
  | .basic => ['"']
  | .literal => ['\'']
  | .longBasic => ['"', '"', '"']
  | .longLiteral => ['\'', '\'', '\'']

/-- Whether a string may stand on several lines. -/
def StringForm.isLong : StringForm → Bool
  | .basic | .literal => false
  | .longBasic | .longLiteral => true

/-- The digits of a code point below 65536: four, in base 16. -/
def codePointDigits (n : Nat) : List Char :=
  let digits := (Nat.toDigits 16 n).map Char.toUpper
  List.replicate (4 - digits.length) '0' ++ digits

/-- A character other than a quote as it is written where escapes are read. -/
def escapeChar (isLong : Bool) (c : Char) : List Char :=
  if c = '\x08' then ['\\', 'b']
  else if c = '\t' then ['\\', 't']
  else if c = '\n' then if isLong then ['\n'] else ['\\', 'n']
  else if c = '\x0c' then ['\\', 'f']
  else if c = '\r' then ['\\', 'r']
  else if c = '\\' then ['\\', '\\']
  else if isLineChar c then [c]
  else ['\\', 'u'] ++ codePointDigits c.toNat

/-- A text with escapes. Of several quotes in a row in a long string every third one is escaped,
else every one; `quotes` counts those in a row that are not. -/
def escape (isLong : Bool) (quotes : Nat) : List Char → List Char
  | [] => []
  | c :: cs =>
    if c = '"' then
      if isLong && quotes < 2 then '"' :: escape isLong (quotes + 1) cs
      else '\\' :: '"' :: escape isLong 0 cs
    else escapeChar isLong c ++ escape isLong 0 cs

/-- The characters between the quotes. -/
def StringForm.body (form : StringForm) (cs : List Char) : List Char :=
  match form with
  | .basic | .longBasic => escape form.isLong 0 cs
  | .literal | .longLiteral => cs

/-- A string as it is written. A text of several lines starts on a line of its own. -/
def stringText (s : String) : String :=
  let cs := s.toList
  let form := StringForm.ofText cs
  let lead := if form.isLong && cs.contains '\n' then ['\n'] else []
  String.ofList (form.quotes ++ lead ++ form.body cs ++ form.quotes)

example : stringText "a\tb" = "\"a\\tb\"" := by decide +kernel
example : stringText "a\\b" = "'a\\b'" := by decide +kernel
example : stringText "\"both'" = "\"\"\"\"both'\"\"\"" := by decide +kernel
example : stringText "\r\"\"" = "\"\\r\\\"\\\"\"" := by decide +kernel

/-! ### Tables -/

/-- A value in a table. -/
inductive EntryValue where
  | text (value : String)
  | texts (values : List String)
  deriving DecidableEq, Repr

/-- A list of strings. With several items it takes a line for each of them. -/
def listText : List String → String
  | [] => "[]"
  | [item] => "[" ++ stringText item ++ "]"
  | items => "[\n" ++ String.join (items.map fun item => "    " ++ stringText item ++ ",\n") ++ "]"

/-- A value as it is written. -/
def EntryValue.written : EntryValue → String
  | .text value => stringText value
  | .texts values => listText values

/-- A table under its header. -/
structure Section where
  /-- The name of the table, with the names of those around it. -/
  name : String
  /-- Whether it is one of a list of tables. -/
  isElement : Bool
  entries : List (String × EntryValue)
  deriving DecidableEq, Repr

/-- The header of a table. -/
def Section.header (s : Section) : String :=
  if s.isElement then "[[" ++ s.name ++ "]]" else "[" ++ s.name ++ "]"

/-- A table as it is written. -/
def Section.written (s : Section) : String :=
  s.header ++ "\n" ++
    String.join (s.entries.map fun (key, value) => key ++ " = " ++ value.written ++ "\n")

/-- A document of tables, with a blank line between them. -/
def documentText (sections : List Section) : String :=
  String.intercalate "\n" (sections.map Section.written)

end ApiModels.Toml
