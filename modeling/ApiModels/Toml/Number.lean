import ApiModels.Json.Reader
import ApiModels.Toml.Basic

/-!
# TOML numbers

Integers of 64 bits in four bases, and floating-point numbers. An underscore may stand between two
digits. An integer that needs more than 64 bits and a number beyond the largest float are refused.
-/

namespace ApiModels.Toml

/-- The digits that follow, without the underscores between them, and the text after them. At least
one digit has to stand there, and one after every underscore. -/
def readDigits (isDigit : Char → Bool) : Reader (List Char)
  | [] => none
  | d :: cs => if isDigit d then go [d] cs else none
where
  /-- `read` holds the digits so far, last first. -/
  go (read : List Char) : List Char → Option (List Char × List Char)
    | '_' :: d :: cs => if isDigit d then go (d :: read) cs else none
    | d :: cs =>
      if isDigit d then go (d :: read) cs
      else if d = '_' then none
      else some (read.reverse, d :: cs)
    | [] => some (read.reverse, [])

/-- The digits of a decimal integer: a zero stands alone. -/
def readDecimalDigits : Reader (List Char)
  | '0' :: cs => some (['0'], cs)
  | cs => readDigits isDigit cs

/-- A sign, and whether it is a minus. -/
def readSign : List Char → Bool × List Char
  | '+' :: cs => (false, cs)
  | '-' :: cs => (true, cs)
  | cs => (false, cs)

/-- The value of digits of a base up to 16. -/
def baseValue (base : Nat) (ds : List Char) : Nat :=
  ds.foldl (fun n d => n * base + (Json.hexValue? d).getD 0) 0

/-- Whether an integer is one of 64 bits with a sign. -/
def fits64 (i : Int) : Bool := -(Nat.pow 2 63 : Int) ≤ i && i < Nat.pow 2 63

/-- An integer that fits into 64 bits. -/
def integerOf (i : Int) (rest : List Char) : Option (Toml × List Char) :=
  if fits64 i then some (.integer i, rest) else none

/-- Whether a character is a digit of a base up to 16. -/
def isBaseDigit (base : Nat) (c : Char) : Bool :=
  match Json.hexValue? c with
  | some n => n < base
  | none => false

/-- An integer of another base than ten, after what names the base. -/
def readBase (base : Nat) : Reader Toml := fun cs => do
  let (ds, rest) ← readDigits (isBaseDigit base) cs
  integerOf (baseValue base ds) rest

/-- The number with the digits of its integer, its decimals and its exponent. -/
def floatOf (negative : Bool) (whole decimals : List Char) (exponent : Int) : Number.Binary64 :=
  .ofDecimal negative (digitsValue (whole ++ decimals)) (exponent - decimals.length)

/-- A float, unless it lies beyond the largest one on the positive side. -/
def finiteOf (x : Number.Binary64) (rest : List Char) : Option (Toml × List Char) :=
  if x = .infinity false then none else some (.float x, rest)

/-- An exponent after its letter. -/
def readExponent : Reader Int := fun cs => do
  let (negative, cs) := readSign cs
  let (ds, rest) ← readDigits isDigit cs
  return (if negative then -digitsValue ds else digitsValue ds, rest)

/-- What follows the decimals of a float. -/
def afterDecimals (negative : Bool) (whole decimals : List Char) : Reader Toml
  | c :: cs =>
    if c = 'e' ∨ c = 'E' then do
      let (exponent, rest) ← readExponent cs
      finiteOf (floatOf negative whole decimals exponent) rest
    else finiteOf (floatOf negative whole decimals 0) (c :: cs)
  | [] => finiteOf (floatOf negative whole decimals 0) []

/-- A decimal integer or a float after its sign. -/
def readDecimal (negative : Bool) : Reader Toml := fun cs => do
  let (whole, rest) ← readDecimalDigits cs
  match rest with
  | '.' :: rest => do
    let (decimals, rest) ← readDigits isDigit rest
    afterDecimals negative whole decimals rest
  | 'e' :: _ => afterDecimals negative whole [] rest
  | 'E' :: _ => afterDecimals negative whole [] rest
  | _ => integerOf (if negative then -digitsValue whole else digitsValue whole) rest

/-- The float that a word names, after a sign. -/
def readSpecial (negative : Bool) : Reader Toml
  | 'i' :: 'n' :: 'f' :: rest => some (.float (.infinity negative), rest)
  | 'n' :: 'a' :: 'n' :: rest =>
    some (.float (if negative then Number.Binary64.nan.neg else .nan), rest)
  | _ => none

/-- A number. -/
def readNumber : Reader Toml
  | '0' :: 'x' :: cs => readBase 16 cs
  | '0' :: 'o' :: cs => readBase 8 cs
  | '0' :: 'b' :: cs => readBase 2 cs
  | cs =>
    let (negative, cs) := readSign cs
    match readSpecial negative cs with
    | some read => some read
    | none => readDecimal negative cs

end ApiModels.Toml
