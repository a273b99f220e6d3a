import ApiModels.Number.Binary64

/-!
# The shortest decimal of a number

`shortest tie x` is the decimal with the fewest digits that rounds to the finite number `x`, and of
those the one nearest to `x`. It is found on the grids of decimals with one, two, … digits: of the
two grid points next to the magnitude, the first grid on which one of them rounds to `x` wins. If
both do and are equally near, `tie` decides.

`FloatLayout` says how the digits are set out and which way a tie goes; a format chooses one.
-/

namespace ApiModels.Number

/-- Which of two equally near decimals is taken. -/
inductive Tie where
  /-- The one whose last digit is even. -/
  | toEven
  /-- The larger one. -/
  | up
  deriving DecidableEq, Repr

/-- The magnitude `digits * 10 ^ exponent`; no trailing zero in `digits`, unless they are 0. -/
structure Decimal where
  digits : Nat
  exponent : Int
  deriving DecidableEq, Repr

/-- The number of decimal digits of a number; one for zero. -/
def digitCount (n : Nat) : Nat := (Nat.toDigits 10 n).length

/-- Moves trailing zeros of the digits into the exponent. -/
def Decimal.trim : Nat → Decimal → Decimal
  | 0, d => d
  | fuel + 1, d =>
    if d.digits ≠ 0 ∧ d.digits % 10 = 0 then trim fuel ⟨d.digits / 10, d.exponent + 1⟩ else d

/-- The greatest integer `e` with `10 ^ e ≤ num / den`, for positive `num` and `den`. -/
def floorLog10 (num den : Nat) : Int :=
  if den ≤ num then (digitCount (num / den) : Int) - 1
  else -(digitCount ((den + num - 1) / num - 1) : Int)

/-- `num / den` scaled by a power of ten. -/
def scaleRatio (num den : Nat) (exponent : Int) : Nat × Nat :=
  if 0 ≤ exponent then (num * Nat.pow 10 exponent.toNat, den)
  else (num, den * Nat.pow 10 (-exponent).toNat)

/-- The reals that round to a number, as two ends over a common denominator with its magnitude;
the ends belong to them if the significand is even. -/
structure RoundingInterval where
  low : Nat
  value : Nat
  high : Nat
  den : Nat
  closed : Bool

/-- The rounding interval of a positive finite number: half a step to either side, and half of that
below a power of two, where the steps are half as wide. -/
def roundingInterval (x : Binary64) : RoundingInterval :=
  let m := x.significand
  let below := if x.fraction = 0 ∧ 1 < x.exponentField then 4 * m - 1 else 4 * m - 2
  let q := x.scale - 2
  let up := if 0 ≤ q then Nat.pow 2 q.toNat else 1
  { low := below * up
    value := 4 * m * up
    high := (4 * m + 2) * up
    den := if 0 ≤ q then 1 else Nat.pow 2 (-q).toNat
    closed := m % 2 == 0 }

namespace RoundingInterval

/-- Whether the decimal `c * 10 ^ k` lies in the interval. -/
def contains (r : RoundingInterval) (c : Nat) (k : Int) : Bool :=
  let (low, unit) := scaleRatio r.low r.den (-k)
  let (high, _) := scaleRatio r.high r.den (-k)
  let point := c * unit
  if r.closed then low ≤ point && point ≤ high else low < point && point < high

/-- On the grid of multiples of `10 ^ k`, the neighbour of the value that lies in the interval; of
two the nearer. -/
def pick (r : RoundingInterval) (tie : Tie) (k : Int) : Option Nat :=
  let (value, unit) := scaleRatio r.value r.den (-k)
  let c := value / unit
  match r.contains c k, r.contains (c + 1) k with
  | true, true =>
    let twice := 2 * (value % unit)
    if twice < unit ∨ (twice = unit ∧ tie = .toEven ∧ c % 2 = 0) then some c else some (c + 1)
  | true, false => some c
  | false, true => some (c + 1)
  | false, false => none

/-- The first grid with a decimal in the interval, from coarse to fine. -/
def search (r : RoundingInterval) (tie : Tie) : Nat → Int → Decimal
  | 0, k => ⟨r.value / r.den, k⟩
  | fuel + 1, k =>
    match r.pick tie k with
    | some c => Decimal.trim 20 ⟨c, k⟩
    | none => search r tie fuel (k - 1)

end RoundingInterval

/-- The shortest decimal that rounds to the magnitude of a finite number. -/
def shortest (tie : Tie) (x : Binary64) : Decimal :=
  if x.isZero then ⟨0, 0⟩
  else
    let r := roundingInterval x
    r.search tie 18 (floorLog10 r.value r.den)

/-! The number 1208253330774147.25 lies halfway between two decimals that read back as it. -/

example :
    shortest .toEven (.ofDecimal false 120825333077414725 (-2)) = ⟨12082533307741472, -1⟩ := by
  decide +kernel
example : shortest .up (.ofDecimal false 120825333077414725 (-2)) = ⟨12082533307741473, -1⟩ := by
  decide +kernel

/-! ### Layout -/

/-- How a number is written. Positional notation is for the decimal exponents from `least` up to,
but not including, `bound`; without bounds it is always used. -/
structure FloatLayout where
  /-- Least and first too large decimal exponent of positional notation. -/
  positional : Option (Int × Int)
  /-- Whether a positional integer is followed by `.0`. -/
  pointZero : Bool
  /-- Whether a positive exponent has a sign. -/
  plus : Bool
  /-- Which way a tie goes. -/
  tie : Tie

/-- The digits of a natural number. -/
def natDigits (n : Nat) : List Char := Nat.toDigits 10 n

/-- An integer in decimal digits. -/
def intDigits (i : Int) : List Char :=
  if i < 0 then '-' :: natDigits i.natAbs else natDigits i.natAbs

/-- The decimal without exponent. -/
def positionalText (pointZero : Bool) (d : Decimal) : List Char :=
  let ds := natDigits d.digits
  if 0 ≤ d.exponent then
    ds ++ List.replicate d.exponent.toNat '0' ++ (if pointZero then ['.', '0'] else [])
  else
    let places := (-d.exponent).toNat
    if places < ds.length then
      ds.take (ds.length - places) ++ '.' :: ds.drop (ds.length - places)
    else '0' :: '.' :: List.replicate (places - ds.length) '0' ++ ds

/-- The decimal with one digit before the point and an exponent. -/
def scientificText (plus : Bool) (d : Decimal) (e : Int) : List Char :=
  let mantissa := match natDigits d.digits with
    | [] => []
    | [digit] => [digit]
    | digit :: more => digit :: '.' :: more
  mantissa ++ 'e' :: (if plus && 0 ≤ e then '+' :: intDigits e else intDigits e)

/-- A finite number in the given layout. -/
def FloatLayout.write (layout : FloatLayout) (x : Binary64) : List Char :=
  let d := shortest layout.tie x
  let e : Int := (digitCount d.digits : Int) - 1 + d.exponent
  let isPositional := match layout.positional with
    | none => true
    | some (least, bound) => least ≤ e && e < bound
  (if x.isNegative then ['-'] else []) ++
    if isPositional then positionalText layout.pointZero d else scientificText layout.plus d e

end ApiModels.Number
