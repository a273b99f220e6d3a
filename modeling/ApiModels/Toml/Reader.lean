import ApiModels.Toml.Number
import ApiModels.Toml.Text

/-!
# Reading TOML

`Toml.read` reads a document: lines with a key and a value, headers of tables, and comments. It says
no more about a text that is no document than that it is none.

Keys are paths (`readPath`). Lists and inline tables nest at most `maxDepth` deep (`readValue`), and
a path has at most as many keys.
-/

namespace ApiModels.Toml

/-- How deep lists and inline tables may nest, and how many keys a path may have. -/
def maxDepth : Nat := 79

/-! ### Blanks and comments -/

/-- The text from the end of a line on, after a comment that may stand there. -/
def skipComment : List Char → List Char
  | '#' :: rest => rest.dropWhile isLineChar
  | cs => cs

/-- The text after the end of a line, which is a line break or the end of the text. Only spaces and
a comment may stand before it. -/
def lineEnd? (cs : List Char) : Option (List Char) :=
  match skipComment (skipSpaces cs) with
  | [] => some []
  | rest => lineBreak? rest

/-- The text after spaces, comments and line breaks; a comment has to end in a line break. -/
def skipBlanks : Nat → List Char → Option (List Char)
  | 0, _ => none
  | fuel + 1, cs =>
    match skipSpaces cs with
    | '#' :: rest => do skipBlanks fuel (← lineBreak? (rest.dropWhile isLineChar))
    | rest =>
      match lineBreak? rest with
      | some rest => skipBlanks fuel rest
      | none => some rest

/-! ### Keys -/

/-- Whether a character may stand in a key without quotes. -/
def isKeyChar (c : Char) : Bool :=
  isDigit c || ('a' ≤ c && c ≤ 'z') || ('A' ≤ c && c ≤ 'Z') || c == '_' || c == '-'

/-- One key. -/
def readKey : Reader String
  | '"' :: rest => (readShort '"' rest).map fun (key, rest) => (String.ofList key, rest)
  | '\'' :: rest => (readShort '\'' rest).map fun (key, rest) => (String.ofList key, rest)
  | cs =>
    let key := cs.takeWhile isKeyChar
    if key.isEmpty then none else some (String.ofList key, cs.drop key.length)

/-- The keys of a path, with points and spaces between them, up to the given number. The last key
comes apart from those before it. -/
def readPath : Nat → Reader (List String × String)
  | 0, _ => none
  | fuel + 1, cs => do
    let (key, rest) ← readKey (skipSpaces cs)
    match skipSpaces rest with
    | '.' :: rest =>
      let ((path, last), rest) ← readPath fuel rest
      return ((key :: path, last), rest)
    | rest => return (([], key), rest)

/-! ### Values -/

/-- The items of a list after its bracket. Blanks of all kinds may stand between them, and a comma
after the last one. -/
def listItems (item : Reader Toml) (size : Nat) : Nat → List Toml → Reader (List Toml)
  | 0, _, _ => none
  | fuel + 1, items, cs => do
    match ← skipBlanks size cs with
    | ']' :: rest => return (items.reverse, rest)
    | rest =>
      let (value, rest) ← item rest
      match ← skipBlanks size rest with
      | ']' :: rest => return ((value :: items).reverse, rest)
      | ',' :: rest => listItems item size fuel (value :: items) rest
      | _ => none

/-- The entries of an inline table, from a key on. -/
def inlineEntries (item : Reader Toml) : Nat → Entries → Reader Entries
  | 0, _, _ => none
  | fuel + 1, entries, cs => do
    let ((path, key), rest) ← readPath maxDepth cs
    let (value, rest) ← item (skipSpaces (← expect '=' rest))
    let (_, entries) ← addValue path key value .inline entries
    match skipSpaces rest with
    | '}' :: rest => return (entries, rest)
    | ',' :: rest => inlineEntries item fuel entries rest
    | _ => none

/-- An inline table after its brace. -/
def readInline (item : Reader Toml) (size : Nat) : Reader Toml := fun cs =>
  match skipSpaces cs with
  | '}' :: rest => some (.table .inline [], rest)
  | cs => (inlineEntries item size [] cs).map fun (entries, rest) => (.table .inline entries, rest)

/-- Whether a value that starts so is a number or a point in time. -/
def startsNumber (c : Char) : Bool :=
  isDigit c || c == '+' || c == '-' || c == 'i' || c == 'n'

/-- A value in which lists and inline tables nest at most `depth` deep. -/
def readValue (size : Nat) (depth : Nat) : Reader Toml := fun cs =>
  match cs with
  | 't' :: 'r' :: 'u' :: 'e' :: rest => some (.bool true, rest)
  | 'f' :: 'a' :: 'l' :: 's' :: 'e' :: rest => some (.bool false, rest)
  | '[' :: rest =>
    match depth with
    | 0 => none
    | depth + 1 =>
      (listItems (readValue size depth) size size [] rest).map fun (items, rest) =>
        (.list items, rest)
  | '{' :: rest =>
    match depth with
    | 0 => none
    | depth + 1 => readInline (readValue size depth) size rest
  | c :: _ =>
    if startsNumber c then
      match readMoment cs with
      | some (point, rest) => some (.moment point, rest)
      | none => readNumber cs
    else (readText cs).map fun (chars, rest) => (.text (String.ofList chars), rest)
  | [] => none

/-! ### Documents -/

/-- What has been read of a document. -/
structure Draft where
  /-- The entries of the root. -/
  entries : Entries
  /-- The header of the table to which entries are added. -/
  current : List String

/-- Changes the entries of the root. -/
def Draft.change (draft : Draft) (change : Change) : Option Draft :=
  (change .header draft.entries).map fun (_, entries) => { draft with entries := entries }

/-- A header after its brackets, up to the end of its line. -/
def readHeader (isElement : Bool) (draft : Draft) (cs : List Char) :
    Option (Draft × List Char) := do
  let ((path, key), rest) ← readPath maxDepth cs
  let rest ← expect ']' rest
  let rest ← if isElement then expect ']' rest else pure rest
  let rest ← lineEnd? rest
  let draft ← draft.change (if isElement then openElement path key else openTable path key)
  return ({ draft with current := path ++ [key] }, rest)

/-- A key with its value, up to the end of the line. -/
def readEntry (size : Nat) (draft : Draft) (cs : List Char) : Option (Draft × List Char) := do
  let ((path, key), rest) ← readPath maxDepth cs
  let (value, rest) ← readValue size maxDepth (skipSpaces (← expect '=' rest))
  let rest ← lineEnd? rest
  let draft ← draft.change (addBelow draft.current path key value)
  return (draft, rest)

/-- A line that is not blank. -/
def readLine (size : Nat) (draft : Draft) (cs : List Char) : Option (Draft × List Char) :=
  match cs with
  | '[' :: '[' :: rest => readHeader true draft rest
  | '[' :: rest => readHeader false draft rest
  | cs => readEntry size draft cs

/-- The lines of a document. -/
def readLines (size : Nat) : Nat → Draft → List Char → Option Draft
  | 0, _, _ => none
  | fuel + 1, draft, cs => do
    match skipSpaces cs with
    | [] => return draft
    | '#' :: rest => readLines size fuel draft (← lineEnd? ('#' :: rest))
    | cs =>
      match lineBreak? cs with
      | some rest => readLines size fuel draft rest
      | none =>
        let (draft, rest) ← readLine size draft cs
        readLines size fuel draft rest

/-- The text without the mark of its encoding. -/
def dropMark : List Char → List Char
  | '\ufeff' :: rest => rest
  | cs => cs

/-- The entries of a document. -/
def read (s : String) : Option Entries :=
  let cs := dropMark s.toList
  (readLines (cs.length + 1) (cs.length + 1) ⟨[], []⟩ cs).map (·.entries)

/-- The value of a document, with its marked tables settled. -/
def readSettled (s : String) : Option Toml := do settle (.table .header (← read s))

end ApiModels.Toml
