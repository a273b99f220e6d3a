import ApiModels.Number.Rounding

/-!
# Numbers in 64 bits

The binary floating-point numbers of 64 bits: a sign, eleven bits of exponent and 52 of fraction.
All arithmetic on them is exact arithmetic on natural numbers followed by one rounding to the
nearest number of the format (`nearest`), a tie going to the even fraction.
-/

namespace ApiModels.Number

/-- A floating-point number of 64 bits, given by its bits. -/
structure Binary64 where
  /-- Sign, exponent and fraction, from the highest bit to the lowest. -/
  bits : UInt64
  deriving DecidableEq, Repr, Inhabited

namespace Binary64

/-- The sign bit. -/
def isNegative (x : Binary64) : Bool := x.bits.toNat / Nat.pow 2 63 == 1

/-- The eleven bits of the exponent. -/
def exponentField (x : Binary64) : Nat := x.bits.toNat / Nat.pow 2 52 % Nat.pow 2 11

/-- The 52 bits of the fraction. -/
def fraction (x : Binary64) : Nat := x.bits.toNat % Nat.pow 2 52

/-- The largest exponent field marks infinities and the values that are no number. -/
def isFinite (x : Binary64) : Bool := x.exponentField != 2047

/-- No number at all. -/
def isNaN (x : Binary64) : Bool := !x.isFinite && x.fraction != 0

/-- The integer `m` of the magnitude `m * 2 ^ q`. -/
def significand (x : Binary64) : Nat :=
  if x.exponentField = 0 then x.fraction else Nat.pow 2 52 + x.fraction

/-- The integer `q` of the magnitude `m * 2 ^ q`. -/
def scale (x : Binary64) : Int :=
  if x.exponentField = 0 then -1074 else (x.exponentField : Int) - 1075

/-- The magnitude of a finite number, as a numerator and a denominator. -/
def magnitude (x : Binary64) : Nat × Nat :=
  if 0 ≤ x.scale then (x.significand * Nat.pow 2 x.scale.toNat, 1)
  else (x.significand, Nat.pow 2 (-x.scale).toNat)

/-- The number with the given sign and the bits of a magnitude. -/
def ofMagnitudeBits (negative : Bool) (bits : Nat) : Binary64 :=
  ⟨UInt64.ofNat (if negative then Nat.pow 2 63 + bits else bits)⟩

/-- The bits of infinity. -/
def infinityBits : Nat := 2047 * Nat.pow 2 52

/-- Infinity of the given sign. -/
def infinity (negative : Bool) : Binary64 := ofMagnitudeBits negative infinityBits

/-- The value that is no number. -/
def nan : Binary64 := ofMagnitudeBits false (infinityBits + Nat.pow 2 51)

/-- Zero of the given sign. -/
def zero (negative : Bool) : Binary64 := ofMagnitudeBits negative 0

/-- The greatest integer `e` with `2 ^ e ≤ num / den`, for positive `num` and `den`. -/
def floorLog2 (num den : Nat) : Int :=
  let guess : Int := (Nat.log2 num : Int) - Nat.log2 den
  let fits : Bool :=
    if 0 ≤ guess then den * Nat.pow 2 guess.toNat ≤ num else den ≤ num * Nat.pow 2 (-guess).toNat
  if fits then guess else guess - 1

/-- The bits of the number nearest to `num / den`; those of infinity beyond the largest number.
The carry of a fraction that rounds up to a power of two runs into the exponent field. -/
def nearestBits (num den : Nat) : Nat :=
  if num = 0 then 0
  else
    let q : Int := max (floorLog2 num den - 52) (-1074)
    let m := if 0 ≤ q then roundHalfEven num (den * Nat.pow 2 q.toNat)
      else roundHalfEven (num * Nat.pow 2 (-q).toNat) den
    min ((q + 1074).toNat * Nat.pow 2 52 + m) infinityBits

/-- The number nearest to `num / den` in magnitude, with the given sign. -/
def nearest (negative : Bool) (num den : Nat) : Binary64 :=
  ofMagnitudeBits negative (nearestBits num den)

/-- The number nearest to `digits * 10 ^ exponent` in magnitude, with the given sign. -/
def ofDecimal (negative : Bool) (digits : Nat) (exponent : Int) : Binary64 :=
  if digits = 0 then zero negative
  else if 0 ≤ exponent then
    if 400 < exponent then infinity negative
    else nearest negative (digits * Nat.pow 10 exponent.toNat) 1
  else if exponent + (Nat.log2 digits : Int) < -400 then zero negative
  else nearest negative digits (Nat.pow 10 (-exponent).toNat)

/-- The number nearest to a natural number. -/
def ofNat (n : Nat) : Binary64 := nearest false n 1

/-- The rounded product of two finite magnitudes. -/
def mul (x y : Binary64) : Binary64 :=
  nearest (x.isNegative != y.isNegative)
    (x.magnitude.1 * y.magnitude.1) (x.magnitude.2 * y.magnitude.2)

/-- The rounded quotient of two finite magnitudes, the second one positive. -/
def div (x y : Binary64) : Binary64 :=
  nearest (x.isNegative != y.isNegative)
    (x.magnitude.1 * y.magnitude.2) (x.magnitude.2 * y.magnitude.1)

/-- Whether a number is zero, of either sign. -/
def isZero (x : Binary64) : Bool := x.bits.toNat % Nat.pow 2 63 == 0

/-- The same magnitude with the other sign. -/
def neg (x : Binary64) : Binary64 := ofMagnitudeBits (!x.isNegative) (x.bits.toNat % Nat.pow 2 63)

example : (ofDecimal false 1 0).bits = 0x3FF0000000000000 := by decide +kernel
example : (ofDecimal false 5 (-324)).bits = 1 := by decide +kernel
example : (ofDecimal false 17976931348623157 292).bits = 0x7FEFFFFFFFFFFFFF := by decide +kernel
example : (ofDecimal true 1 (-1)).bits = 0xBFB999999999999A := by decide +kernel

end Binary64

end ApiModels.Number
