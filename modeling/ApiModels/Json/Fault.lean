import ApiModels.Json.Mismatch

/-!
# Faults in JSON text

What can be wrong with a JSON text, and where. A fault carries the text that had not been read when
it was found; `Fault.locate` turns that into a line and a column. Lines count from one. A column is
the number of bytes read on the line, so it is zero right after a line break.

A mismatch found inside a container is not located at once: the reader first moves on to the end of
the container, as far as a closing bracket stands there (`Fault.settleList`, `Fault.settleObject`).
-/

namespace ApiModels.Json

/-- What is wrong with a text. -/
inductive Cause where
  | endInValue | endInList | endInObject | endInString
  | expectedValue | expectedIdentifier | expectedColon
  | expectedListCommaOrEnd | expectedObjectCommaOrEnd
  | keyNotString | trailingComma | trailingCharacters
  | invalidNumber | numberOutOfRange
  | invalidEscape | loneSurrogate | unexpectedEndOfEscape | controlCharacter
  | nestedTooDeep
  | mismatch (mismatch : Mismatch)
  deriving DecidableEq, Repr

/-- The words for a cause. -/
def Cause.message : Cause → String
  | .endInValue => "EOF while parsing a value"
  | .endInList => "EOF while parsing a list"
  | .endInObject => "EOF while parsing an object"
  | .endInString => "EOF while parsing a string"
  | .expectedValue => "expected value"
  | .expectedIdentifier => "expected ident"
  | .expectedColon => "expected `:`"
  | .expectedListCommaOrEnd => "expected `,` or `]`"
  | .expectedObjectCommaOrEnd => "expected `,` or `\x7d`"
  | .keyNotString => "key must be a string"
  | .trailingComma => "trailing comma"
  | .trailingCharacters => "trailing characters"
  | .invalidNumber => "invalid number"
  | .numberOutOfRange => "number out of range"
  | .invalidEscape => "invalid escape"
  | .loneSurrogate => "lone leading surrogate in hex escape"
  | .unexpectedEndOfEscape => "unexpected end of hex escape"
  | .controlCharacter => "control character (\\u0000-\\u001F) found while parsing a string"
  | .nestedTooDeep => "recursion limit exceeded"
  | .mismatch m => m.message

/-- A fault met while reading. -/
inductive Fault where
  /-- A fault with its place: `extra` bytes into the text that was left. -/
  | located (cause : Cause) (rest : List Char) (extra : Nat)
  /-- A mismatch that takes its place from the container it is in; `rest` is the text left. -/
  | pending (mismatch : Mismatch) (rest : List Char)
  deriving Repr

/-- A fault at the end of what has been read. -/
def Fault.here (cause : Cause) (rest : List Char) : Fault := .located cause rest 0

/-- A fault that names the next byte as the wrong one. -/
def Fault.next (cause : Cause) (rest : List Char) : Fault := .located cause rest 1

/-- A mismatch at the end of what has been read. -/
def Fault.misfit (mismatch : Mismatch) (rest : List Char) : Fault :=
  .located (.mismatch mismatch) rest 0

/-- The four characters that may stand between the parts of a JSON text. -/
def isSpace (c : Char) : Bool := c == ' ' || c == '\n' || c == '\t' || c == '\r'

/-- The text from the first character that is no space. -/
def skipSpaces (cs : List Char) : List Char := cs.dropWhile isSpace

/-- The text after the end of a list, or after a comma, as far as one of them follows. -/
def afterListEnd (cs : List Char) : List Char :=
  match skipSpaces cs with
  | ']' :: rest => rest
  | ',' :: rest => skipSpaces rest
  | rest => rest

/-- The text after the end of an object, if that follows. -/
def afterObjectEnd (cs : List Char) : List Char :=
  match skipSpaces cs with
  | '}' :: rest => rest
  | rest => rest

/-- Gives a pending mismatch inside a list its place. -/
def Fault.settleList : Fault → Fault
  | .pending m rest => .misfit m (afterListEnd rest)
  | fault => fault

/-- Gives a pending mismatch inside an object its place. -/
def Fault.settleObject : Fault → Fault
  | .pending m rest => .misfit m (afterObjectEnd rest)
  | fault => fault

/-! ### Places -/

/-- The length of a text in bytes of UTF-8. -/
def byteLength (cs : List Char) : Nat := cs.foldl (fun n c => n + c.utf8Size) 0

/-- The line and column after a number of bytes, from a line and column on. -/
def placeAfter (line column : Nat) : List Char → Nat → Nat × Nat
  | [], _ => (line, column)
  | _ :: _, 0 => (line, column)
  | c :: cs, bytes =>
    if bytes < c.utf8Size then (line, column + bytes)
    else if c = '\n' then placeAfter (line + 1) 0 cs (bytes - 1)
    else placeAfter line (column + c.utf8Size) cs (bytes - c.utf8Size)

/-- A fault with its line and column. -/
structure LocatedFault where
  cause : Cause
  line : Nat
  column : Nat
  deriving DecidableEq, Repr

/-- The place of a fault in the text that was read. -/
def Fault.locate (whole : List Char) : Fault → LocatedFault
  | .located cause rest extra =>
    let (line, column) := placeAfter 1 0 whole (byteLength whole - byteLength rest + extra)
    ⟨cause, line, column⟩
  | .pending m rest =>
    let (line, column) := placeAfter 1 0 whole (byteLength whole - byteLength rest)
    ⟨.mismatch m, line, column⟩

/-- The words for a fault and its place. -/
def LocatedFault.message (fault : LocatedFault) : String :=
  fault.cause.message ++ " at line " ++ toString fault.line ++ " column " ++ toString fault.column

end ApiModels.Json
