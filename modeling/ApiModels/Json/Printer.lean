import ApiModels.Json.Basic
import ApiModels.Number.Shortest

/-!
# JSON text of a value

`Json.compact` writes a value without blanks, `Json.pretty` with one member or item a line and an
indentation of two spaces. Both go through functions that put the text of a value in front of a
text that follows it, so that what a value writes does not depend on its surroundings.

Strings escape the quote, the backslash and the control characters, and nothing else. A float has
the fewest digits that read back; it is positional for the decimal exponents from -5 to 15.
-/

namespace ApiModels.Json

/-- Floats in JSON text. -/
def floatLayout : Number.FloatLayout := ⟨some (-5, 16), true, true, .toEven⟩

/-- The text of a number. -/
def numberText : JsonNumber → List Char
  | .int i => Number.intDigits i
  | .float x => floatLayout.write x

/-- A hexadecimal digit. -/
def hexDigit (n : Nat) : Char := Nat.digitChar (n % 16)

/-- A character as it stands in a string. -/
def escapedChar (c : Char) : List Char :=
  if c = '"' then ['\\', '"']
  else if c = '\\' then ['\\', '\\']
  else if c = '\n' then ['\\', 'n']
  else if c = '\r' then ['\\', 'r']
  else if c = '\t' then ['\\', 't']
  else if c = '\x08' then ['\\', 'b']
  else if c = '\x0c' then ['\\', 'f']
  else if c.toNat < 0x20 then
    ['\\', 'u', '0', '0', hexDigit (c.toNat / 16), hexDigit c.toNat]
  else [c]

/-- The characters of a string between its quotes. -/
def escaped (cs : List Char) : List Char := cs.flatMap escapedChar

/-- A string between quotes, in front of a text. -/
def quotedOnto (s : String) (rest : List Char) : List Char :=
  '"' :: (escaped s.toList ++ '"' :: rest)

/-- The text of a value that is no container, in front of a text; nothing for a container. -/
def scalarOnto (value : Json) (rest : List Char) : List Char :=
  match value with
  | .null => "null".toList ++ rest
  | .bool true => "true".toList ++ rest
  | .bool false => "false".toList ++ rest
  | .number n => numberText n ++ rest
  | .text s => quotedOnto s rest
  | _ => rest

/-! ### Compact text -/

mutual

/-- The compact text of a value, in front of a text. -/
def compactOnto : Json → List Char → List Char
  | .list items, rest => '[' :: compactItemsOnto true items (']' :: rest)
  | .object members, rest => '{' :: compactMembersOnto true members ('}' :: rest)
  | value, rest => scalarOnto value rest

/-- The items of a list, each but the first after a comma. -/
def compactItemsOnto (isFirst : Bool) : List Json → List Char → List Char
  | [], rest => rest
  | item :: items, rest =>
    let text := compactOnto item (compactItemsOnto false items rest)
    if isFirst then text else ',' :: text

/-- The members of an object, each but the first after a comma. -/
def compactMembersOnto (isFirst : Bool) : List (String × Json) → List Char → List Char
  | [], rest => rest
  | (name, value) :: members, rest =>
    let text := quotedOnto name
      (':' :: compactOnto value (compactMembersOnto false members rest))
    if isFirst then text else ',' :: text

end

/-- The compact text of a value. -/
def compact (value : Json) : String := String.ofList (compactOnto value [])

/-! ### Pretty text -/

/-- A line break and the indentation of a level, in front of a text. -/
def newLineOnto (level : Nat) (rest : List Char) : List Char :=
  '\n' :: (List.replicate (2 * level) ' ' ++ rest)

mutual

/-- The pretty text of a value that stands at a level, in front of a text. -/
def prettyOnto (level : Nat) : Json → List Char → List Char
  | .list [], rest => '[' :: ']' :: rest
  | .list (item :: items), rest =>
    '[' :: newLineOnto (level + 1) (prettyOnto (level + 1) item
      (prettyItemsOnto (level + 1) items (newLineOnto level (']' :: rest))))
  | .object [], rest => '{' :: '}' :: rest
  | .object ((name, value) :: members), rest =>
    '{' :: newLineOnto (level + 1) (quotedOnto name (':' :: ' ' :: prettyOnto (level + 1) value
      (prettyMembersOnto (level + 1) members (newLineOnto level ('}' :: rest)))))
  | value, rest => scalarOnto value rest

/-- The items of a list but the first, each after a comma on a line of its own. -/
def prettyItemsOnto (level : Nat) : List Json → List Char → List Char
  | [], rest => rest
  | item :: items, rest =>
    ',' :: newLineOnto level (prettyOnto level item (prettyItemsOnto level items rest))

/-- The members of an object but the first, each after a comma on a line of its own. -/
def prettyMembersOnto (level : Nat) : List (String × Json) → List Char → List Char
  | [], rest => rest
  | (name, value) :: members, rest =>
    ',' :: newLineOnto level (quotedOnto name
      (':' :: ' ' :: prettyOnto level value (prettyMembersOnto level members rest)))

end

/-- The pretty text of a value. -/
def pretty (value : Json) : String := String.ofList (prettyOnto 0 value [])

example : (compact (.object [("a", .list [.null, .bool true]), ("b", .text "\n")])) =
    "\x7b\"a\":[null,true],\"b\":\"\\n\"\x7d" := by decide +kernel

end ApiModels.Json
