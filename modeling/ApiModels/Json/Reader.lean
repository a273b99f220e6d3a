import ApiModels.Json.Fault

/-!
# Reading JSON text

`Json.read` reads a text that holds one value. The reader goes through the text once, from left to
right, and stops at the first fault. Its parts take the text that is left and give back what they
read together with the text after it.

* `readString` reads the characters of a string after its opening quote;
* `readNumber` reads an integer of 64 bits, or a decimal as a float (`scaled`);
* `listItems` and `objectMembers` read the inside of a container with any reader of its items or
  members, so that typed readers share them;
* `readValue` reads a value in which containers nest at most so deep.
-/

namespace ApiModels.Json

/-- A reader takes the text that is left and gives back a value and the text after it. -/
abbrev Reader (α : Type) := List Char → Except Fault (α × List Char)

/-! ### Strings -/

/-- The value of a hexadecimal digit. -/
def hexValue? (c : Char) : Option Nat :=
  if '0' ≤ c ∧ c ≤ '9' then some (c.toNat - 48)
  else if 'a' ≤ c ∧ c ≤ 'f' then some (c.toNat - 87)
  else if 'A' ≤ c ∧ c ≤ 'F' then some (c.toNat - 55)
  else none

/-- The value of four hexadecimal digits. -/
def hexFour? : List Char → Option Nat
  | a :: b :: c :: d :: _ => do
    let a ← hexValue? a
    let b ← hexValue? b
    let c ← hexValue? c
    let d ← hexValue? d
    return ((a * 16 + b) * 16 + c) * 16 + d
  | _ => none

/-- The four digits of a code unit. Any four bytes are taken for digits before they are looked
at. -/
def hexFour (cs : List Char) : Except Fault Nat :=
  match hexFour? cs with
  | some n => .ok n
  | none =>
    if byteLength (cs.take 4) < 4 then .error (.here .endInString [])
    else .error (.located .invalidEscape cs 4)

/-- The character that follows a backslash and a `u`, and how many characters give it: four digits,
or a pair of surrogates with the backslash and `u` between them. -/
def unicodeEscape (cs : List Char) : Except Fault (Char × Nat) := do
  let high ← hexFour cs
  let rest := cs.drop 4
  if 0xDC00 ≤ high ∧ high ≤ 0xDFFF then throw (.here .loneSurrogate rest)
  if high < 0xD800 ∨ 0xDBFF < high then return (Char.ofNat high, 4)
  match rest with
  | [] => throw (.here .endInString [])
  | '\\' :: rest =>
    match rest with
    | [] => throw (.here .endInString [])
    | 'u' :: rest =>
      let low ← hexFour rest
      if low < 0xDC00 ∨ 0xDFFF < low then throw (.here .loneSurrogate (rest.drop 4))
      return (Char.ofNat ((high - 0xD800) * 1024 + (low - 0xDC00) + 0x10000), 10)
    | _ => throw (.next .unexpectedEndOfEscape rest)
  | _ => throw (.next .unexpectedEndOfEscape rest)

/-- The character that follows a backslash, and how many characters give it. -/
def escapeSequence (cs : List Char) : Except Fault (Char × Nat) :=
  match cs with
  | [] => .error (.here .endInString [])
  | '"' :: _ => .ok ('"', 1)
  | '\\' :: _ => .ok ('\\', 1)
  | '/' :: _ => .ok ('/', 1)
  | 'b' :: _ => .ok ('\x08', 1)
  | 'f' :: _ => .ok ('\x0c', 1)
  | 'n' :: _ => .ok ('\n', 1)
  | 'r' :: _ => .ok ('\r', 1)
  | 't' :: _ => .ok ('\t', 1)
  | 'u' :: rest =>
    match unicodeEscape rest with
    | .ok (c, used) => .ok (c, used + 1)
    | .error fault => .error fault
  | _ => .error (.next .invalidEscape cs)

/-- The characters of a string up to its closing quote; the first `skip` characters belong to an
escape that has been read. -/
def stringBody (skip : Nat) : List Char → Except Fault (List Char × List Char)
  | [] => .error (.here .endInString [])
  | c :: cs =>
    match skip with
    | skip + 1 => stringBody skip cs
    | 0 =>
      if c = '"' then .ok ([], cs)
      else if c = '\\' then
        match escapeSequence cs with
        | .error fault => .error fault
        | .ok (e, used) =>
          match stringBody used cs with
          | .error fault => .error fault
          | .ok (body, rest) => .ok (e :: body, rest)
      else if c.toNat < 0x20 then .error (.next .controlCharacter (c :: cs))
      else
        match stringBody 0 cs with
        | .error fault => .error fault
        | .ok (body, rest) => .ok (c :: body, rest)

/-- A string after its opening quote. -/
def readString : Reader String := fun cs => do
  let (body, rest) ← stringBody 0 cs
  return (String.ofList body, rest)

/-! ### Numbers -/

/-- A decimal digit. -/
def isDigit (c : Char) : Bool := '0' ≤ c && c ≤ '9'

/-- The value of a decimal digit. -/
def digitValue (c : Char) : Nat := c.toNat - 48

/-- The largest number of 64 bits. -/
def maxWord : Nat := Nat.pow 2 64 - 1

/-- Appends digits to a number as long as it stays within 64 bits; the digits left over follow. -/
def absorbDigits (n : Nat) : List Char → Nat × List Char
  | [] => (n, [])
  | d :: ds =>
    if maxWord < n * 10 + digitValue d then (n, d :: ds)
    else absorbDigits (n * 10 + digitValue d) ds

/-- Divides by `10 ^ 308` until the exponent is at least -308 or nothing is left. -/
def scaleDown : Nat → Number.Binary64 → Int → Number.Binary64
  | 0, f, _ => f
  | fuel + 1, f, e =>
    if f.isZero then f
    else if e < -308 then scaleDown fuel (f.div (.ofDecimal false 1 308)) (e + 308)
    else f.div (.ofDecimal false 1 (-e))

/-- `n * 10 ^ e` as a float: the number is rounded first, then it is multiplied with the power of
ten or divided by it, and rounded again. None beyond the largest float. -/
def scaled (n : Nat) (e : Int) : Option Number.Binary64 :=
  let f := Number.Binary64.ofNat n
  if e < 0 then some (scaleDown 4 f e)
  else if f.isZero then some f
  else if 308 < e then none
  else
    let g := f.mul (.ofDecimal false 1 e)
    if g.isFinite then some g else none

/-- A float with its sign, or the fault that it is out of range. -/
def floatValue (negative : Bool) (n : Nat) (e : Int) (rest : List Char) :
    Except Fault (JsonNumber × List Char) :=
  match scaled n e with
  | some f => .ok (.float (if negative then f.neg else f), rest)
  | none => .error (.here .numberOutOfRange rest)

/-- The largest exponent that is looked at, and the digits of an exponent up to it. -/
def absorbExponent (n : Nat) : List Char → Nat × List Char
  | [] => (n, [])
  | d :: ds =>
    if Nat.pow 2 31 - 1 < n * 10 + digitValue d then (n, d :: ds)
    else absorbExponent (n * 10 + digitValue d) ds

/-- The rest of a number after its `e`: `n` has the digits before and `e` the exponent from the
place of the point. -/
def exponentPart (negative : Bool) (n : Nat) (e : Int) (cs : List Char) :
    Except Fault (JsonNumber × List Char) :=
  let (isDown, cs) := match cs with
    | '+' :: rest => (false, rest)
    | '-' :: rest => (true, rest)
    | _ => (false, cs)
  match cs with
  | [] => .error (.here .endInValue [])
  | c :: _ =>
    if !isDigit c then .error (.next .invalidNumber cs)
    else
      let digits := cs.takeWhile isDigit
      let rest := cs.dropWhile isDigit
      let (x, excess) := absorbExponent 0 digits
      if excess.isEmpty then floatValue negative n (if isDown then e - x else e + x) rest
      else if n ≠ 0 ∧ !isDown then .error (.here .numberOutOfRange (excess.drop 1 ++ rest))
      else .ok (.float (.zero negative), rest)

/-- The rest of a number after its point. -/
def fractionPart (negative : Bool) (n : Nat) (e : Int) (cs : List Char) :
    Except Fault (JsonNumber × List Char) :=
  let digits := cs.takeWhile isDigit
  let rest := cs.dropWhile isDigit
  let (m, excess) := absorbDigits n digits
  if digits.isEmpty then
    match rest with
    | [] => .error (.here .endInValue [])
    | _ => .error (.next .invalidNumber rest)
  else
    let e := e - (digits.length - excess.length : Nat)
    match rest with
    | 'e' :: rest => exponentPart negative m e rest
    | 'E' :: rest => exponentPart negative m e rest
    | _ => floatValue negative m e rest

/-- What follows the integer digits of a number. -/
def afterInteger (negative : Bool) (digits rest : List Char) :
    Except Fault (JsonNumber × List Char) :=
  let (n, excess) := absorbDigits 0 digits
  let e : Int := excess.length
  match rest with
  | '.' :: rest => fractionPart negative n e rest
  | 'e' :: rest => exponentPart negative n e rest
  | 'E' :: rest => exponentPart negative n e rest
  | _ =>
    if !excess.isEmpty then floatValue negative n e rest
    else if !negative then .ok (.int n, rest)
    else if n = 0 ∨ Nat.pow 2 63 < n then .ok (.float (Number.Binary64.ofNat n).neg, rest)
    else .ok (.int (-n), rest)

/-- A number after its sign. A leading zero stands alone. -/
def readNumber (negative : Bool) (cs : List Char) : Except Fault (JsonNumber × List Char) :=
  match cs with
  | [] => .error (.here .endInValue [])
  | c :: tail =>
    if c = '0' then
      if (tail.take 1).any isDigit then .error (.next .invalidNumber tail)
      else afterInteger negative ['0'] tail
    else if isDigit c then
      afterInteger negative (cs.takeWhile isDigit) (cs.dropWhile isDigit)
    else .error (.next .invalidNumber cs)

/-! ### Words -/

/-- The rest of a word. -/
def word : List Char → List Char → Except Fault (List Char)
  | [], cs => .ok cs
  | _ :: _, [] => .error (.here .endInValue [])
  | e :: es, c :: cs => if c = e then word es cs else .error (.next .expectedIdentifier (c :: cs))

/-! ### Containers -/

/-- The items of a list after its bracket, each read by `step` into a state. A pending mismatch
takes its place from the end of the list. -/
def listItems {σ : Type} (step : σ → List Char → Except Fault (σ × List Char)) :
    Nat → Bool → σ → List Char → Except Fault (σ × List Char)
  | 0, _, _, _ => .error (.here .endInList [])
  | fuel + 1, isFirst, state, cs => do
    let rest ← match skipSpaces cs, isFirst with
      | [], _ => throw (.here .endInList [])
      | ']' :: rest, _ => return (state, rest)
      | cs, true => pure cs
      | ',' :: rest, false =>
        match skipSpaces rest with
        | [] => throw (.here .endInValue [])
        | ']' :: rest => throw (.next .trailingComma (']' :: rest))
        | rest => pure rest
      | cs, false => throw (.next .expectedListCommaOrEnd cs)
    match step state rest with
    | .ok (state, rest) => listItems step fuel false state rest
    | .error fault => throw fault.settleList

/-- The members of an object after its bracket. `step` gets the name of a member and the text after
it. A pending mismatch takes its place from the end of the object. -/
def objectMembers {σ : Type} (step : σ → String → List Char → Except Fault (σ × List Char)) :
    Nat → Bool → σ → List Char → Except Fault (σ × List Char)
  | 0, _, _, _ => .error (.here .endInObject [])
  | fuel + 1, isFirst, state, cs => do
    let rest ← match skipSpaces cs, isFirst with
      | [], _ => throw (.here .endInObject [])
      | '}' :: rest, _ => return (state, rest)
      | '"' :: rest, true => pure rest
      | cs, true => throw (.next .keyNotString cs)
      | ',' :: rest, false =>
        match skipSpaces rest with
        | [] => throw (.here .endInValue [])
        | '"' :: rest => pure rest
        | '}' :: rest => throw (.next .trailingComma ('}' :: rest))
        | rest => throw (.next .keyNotString rest)
      | cs, false => throw (.next .expectedObjectCommaOrEnd cs)
    let (name, rest) ← readString rest
    match step state name rest with
    | .ok (state, rest) => objectMembers step fuel false state rest
    | .error fault => throw fault.settleObject

/-- The colon between a name and its value. -/
def colon (cs : List Char) : Except Fault (List Char) :=
  match skipSpaces cs with
  | ':' :: rest => .ok rest
  | [] => .error (.here .endInObject [])
  | rest => .error (.next .expectedColon rest)

/-! ### Values -/

/-- A value in which containers nest at most `depth` deep. -/
def readValue (fuel : Nat) (depth : Nat) : Reader Json := fun cs =>
  match skipSpaces cs with
  | [] => .error (.here .endInValue [])
  | 'n' :: rest => do return (.null, ← word ['u', 'l', 'l'] rest)
  | 't' :: rest => do return (.bool true, ← word ['r', 'u', 'e'] rest)
  | 'f' :: rest => do return (.bool false, ← word ['a', 'l', 's', 'e'] rest)
  | '-' :: rest => do
    let (n, rest) ← readNumber true rest
    return (.number n, rest)
  | '"' :: rest => do
    let (s, rest) ← readString rest
    return (.text s, rest)
  | '[' :: rest =>
    match depth with
    | 0 => .error (.next .nestedTooDeep ('[' :: rest))
    | depth + 1 => do
      let (items, rest) ← listItems
        (fun items cs => do
          let (item, rest) ← readValue fuel depth cs
          return (item :: items, rest))
        fuel true [] rest
      return (.list items.reverse, rest)
  | '{' :: rest =>
    match depth with
    | 0 => .error (.next .nestedTooDeep ('{' :: rest))
    | depth + 1 => do
      let (members, rest) ← objectMembers
        (fun members name cs => do
          let rest ← colon cs
          let (item, rest) ← readValue fuel depth rest
          return ((name, item) :: members, rest))
        fuel true [] rest
      return (.object members.reverse, rest)
  | c :: rest =>
    if isDigit c then do
      let (n, rest) ← readNumber false (c :: rest)
      return (.number n, rest)
    else .error (.next .expectedValue (c :: rest))

/-- How deep containers may nest. -/
def maxDepth : Nat := 127

/-- Nothing but spaces may follow. -/
def finish {α : Type} (result : α) (cs : List Char) : Except Fault α :=
  match skipSpaces cs with
  | [] => .ok result
  | rest => .error (.next .trailingCharacters rest)

/-- A text that holds one value, with the members of objects in the order of the text. -/
def readAll (cs : List Char) : Except Fault Json := do
  let (result, rest) ← readValue (cs.length + 1) maxDepth cs
  finish result rest

/-- The value of a JSON text. -/
def read (s : String) : Except LocatedFault Json :=
  (readAll s.toList).mapError (Fault.locate s.toList)

end ApiModels.Json
