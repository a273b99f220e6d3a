import ApiModels.Change.Severity
import ApiModels.Json.Basic
import ApiModels.Text.Blank
import ApiModels.Text.Quoted

/-!
# Semantic versions

A version has three numbers, and possibly identifiers of a pre-release and of a build. It is read
from a text such as `1.2.3-rc.1+build.5`, with blanks around it and a `v` in front of it allowed,
and written without them. Numbers have at most 64 bits; numbers of a version and numeric identifiers
of a pre-release have no leading zeros. A change raises one of the numbers, and what happens at the
greatest one depends on how the program was built (`Version.next?`).
-/

namespace ApiModels

/-- A semantic version. -/
structure Version where
  major : Nat
  minor : Nat
  patch : Nat
  /-- The identifiers of the pre-release; none for a release. -/
  preRelease : List (List Char)
  /-- The identifiers of the build. -/
  build : List (List Char)
  deriving DecidableEq, Repr

/-- The parts of a version. -/
inductive VersionPart where
  | major
  | minor
  | patch
  | preRelease
  | build
  deriving DecidableEq, Repr

/-- The words for a part. -/
def VersionPart.words : VersionPart → String
  | .major => "major version number"
  | .minor => "minor version number"
  | .patch => "patch version number"
  | .preRelease => "pre-release identifier"
  | .build => "build metadata"

/-- Why a text is no version. -/
inductive VersionFault where
  | empty
  | unexpectedEnd (part : VersionPart)
  | unexpectedChar (part : VersionPart) (c : Char)
  | unexpectedAfter (part : VersionPart) (c : Char)
  | leadingZero (part : VersionPart)
  | tooLarge (part : VersionPart)
  | emptyIdentifier (part : VersionPart)
  deriving DecidableEq, Repr

/-- The words for a fault. -/
def VersionFault.message : VersionFault → String
  | .empty => "empty string, expected a semver version"
  | .unexpectedEnd part => "unexpected end of input while parsing " ++ part.words
  | .unexpectedChar part c =>
    "unexpected character " ++ Text.quotedAlone c ++ " while parsing " ++ part.words
  | .unexpectedAfter part c =>
    "unexpected character " ++ Text.quotedAlone c ++ " after " ++ part.words
  | .leadingZero part => "invalid leading zero in " ++ part.words
  | .tooLarge part => "value of " ++ part.words ++ " exceeds u64::MAX"
  | .emptyIdentifier part => "empty identifier segment in " ++ part.words

/-- What a program does about a sum that has more than 64 bits. This is up to how it was
built. -/
inductive Arithmetic where
  /-- It stops. -/
  | checked
  /-- It goes on with the last 64 bits. -/
  | wrapping
  deriving DecidableEq, Repr

namespace Version

/-! ### Writing -/

/-- The identifiers of a part, with points between them. -/
def identifierText (identifiers : List (List Char)) : List Char := Text.join ['.'] identifiers

/-- Identifiers after the mark of their part; nothing without any. -/
def partText (mark : Char) (identifiers : List (List Char)) : List Char :=
  if identifiers.isEmpty then [] else mark :: identifierText identifiers

/-- The digits of a number. -/
def numberText (n : Nat) : List Char := Nat.toDigits 10 n

/-- The characters of a version. -/
def chars (v : Version) : List Char :=
  numberText v.major ++ '.' :: numberText v.minor ++ '.' :: numberText v.patch ++
    partText '-' v.preRelease ++ partText '+' v.build

/-- The text of a version. -/
def text (v : Version) : String := String.ofList v.chars

/-- The text of a version with a `v` in front of it. -/
def tag (v : Version) : String := String.ofList ('v' :: v.chars)

/-- The version as a JSON value. -/
def toJson (v : Version) : Json := .object [("version", .text v.text)]

/-! ### Reading -/

/-- A reader of a part of a version: what it read, and the text after it. -/
abbrev PartReader (α : Type) := List Char → Except VersionFault (α × List Char)

/-- The greatest number. -/
def maxNumber : Nat := Nat.pow 2 64 - 1

/-- Appends the digits that follow to a number. `isFirst` says that no digit has been read. -/
def readDigits (part : VersionPart) : Bool → Nat → PartReader Nat
  | isFirst, n, c :: cs =>
    if c.isDigit then
      if n = 0 ∧ !isFirst then .error (.leadingZero part)
      else
        let m := n * 10 + (c.toNat - '0'.toNat)
        if maxNumber < m then .error (.tooLarge part) else readDigits part false m cs
    else if isFirst then .error (.unexpectedChar part c)
    else .ok (n, c :: cs)
  | isFirst, n, [] => if isFirst then .error (.unexpectedEnd part) else .ok (n, [])

/-- A number without leading zeros. -/
def readNumber (part : VersionPart) : PartReader Nat := readDigits part true 0

/-- The text after the point that follows a part. -/
def afterPoint (part : VersionPart) : List Char → Except VersionFault (List Char)
  | '.' :: cs => .ok cs
  | c :: _ => .error (.unexpectedAfter part c)
  | [] => .error (.unexpectedEnd part)

/-- A character of an identifier. -/
def isIdentifierChar (c : Char) : Bool := c.isAlphanum || c == '-'

/-- Whether an identifier is a number. -/
def isNumeric (identifier : List Char) : Bool := identifier.all Char.isDigit

/-- The fault of an identifier. -/
def identifierFault? (part : VersionPart) (identifier : List Char) : Option VersionFault :=
  match identifier with
  | [] => some (.emptyIdentifier part)
  | c :: cs =>
    if part = .preRelease ∧ isNumeric (c :: cs) ∧ c = '0' ∧ !cs.isEmpty then
      some (.leadingZero part)
    else none

/-- The identifiers of a part; `current` has the characters of the current one, last first. -/
def readIdentifiers (part : VersionPart) (current : List Char) : PartReader (List (List Char))
  | [] =>
    match identifierFault? part current.reverse with
    | some fault => .error fault
    | none => .ok ([current.reverse], [])
  | c :: cs =>
    if isIdentifierChar c then readIdentifiers part (c :: current) cs
    else
      match identifierFault? part current.reverse with
      | some fault => .error fault
      | none =>
        if c = '.' then
          match readIdentifiers part [] cs with
          | .error fault => .error fault
          | .ok (identifiers, rest) => .ok (current.reverse :: identifiers, rest)
        else .ok ([current.reverse], c :: cs)

/-- The identifiers after the mark of their part; none without the mark. -/
def readPart (part : VersionPart) (mark : Char) : PartReader (List (List Char))
  | [] => .ok ([], [])
  | c :: cs => if c = mark then readIdentifiers part [] cs else .ok ([], c :: cs)

/-- The part after which a version ends. -/
def lastPart (preRelease build : List (List Char)) : VersionPart :=
  if !build.isEmpty then .build else if !preRelease.isEmpty then .preRelease else .patch

/-- The version of a text without blanks or `v` around it. -/
def readChars (cs : List Char) : Except VersionFault Version := do
  if cs.isEmpty then throw .empty
  let (major, cs) ← readNumber .major cs
  let (minor, cs) ← readNumber .minor (← afterPoint .major cs)
  let (patch, cs) ← readNumber .patch (← afterPoint .minor cs)
  let (preRelease, cs) ← readPart .preRelease '-' cs
  let (build, cs) ← readPart .build '+' cs
  match cs with
  | [] => return ⟨major, minor, patch, preRelease, build⟩
  | c :: _ => throw (.unexpectedAfter (lastPart preRelease build) c)

/-- The text of a version without the blanks around it and without its `v`. -/
def core (s : String) : List Char :=
  match Text.trim s.toList with
  | 'v' :: cs => cs
  | cs => cs

/-- The version of a text. -/
def read (s : String) : Except VersionFault Version := readChars (core s)

/-! ### The next version -/

/-- The number after another one in 64 bits; zero comes after the greatest one. -/
def successor (n : Nat) : Nat := (n + 1) % (maxNumber + 1)

/-- The version that a change of the given severity calls for. -/
def bump (v : Version) : Severity → Version
  | .major => ⟨successor v.major, 0, 0, [], []⟩
  | .minor => ⟨v.major, successor v.minor, 0, [], []⟩
  | .patch => ⟨v.major, v.minor, successor v.patch, [], []⟩

/-- The number that a change of the given severity raises. -/
def raised (v : Version) : Severity → Nat
  | .major => v.major
  | .minor => v.minor
  | .patch => v.patch

/-- The number that would be raised has no successor in 64 bits. -/
def Overflows (v : Version) (severity : Severity) : Prop := maxNumber ≤ v.raised severity

instance (v : Version) (severity : Severity) : Decidable (v.Overflows severity) :=
  inferInstanceAs (Decidable (maxNumber ≤ v.raised severity))

/-- The version that follows after a change; none where the program stops. -/
def next? (arithmetic : Arithmetic) (v : Version) (severity : Severity) : Option Version :=
  if arithmetic = .checked ∧ v.Overflows severity then none else some (v.bump severity)

theorem next?_eq_none_iff {arithmetic : Arithmetic} {v : Version} {severity : Severity} :
    v.next? arithmetic severity = none ↔ arithmetic = .checked ∧ v.Overflows severity := by
  unfold next?
  split
  · next h => exact ⟨fun _ => h, fun _ => rfl⟩
  · next h => exact ⟨nofun, fun hstops => absurd hstops h⟩

end Version

end ApiModels
