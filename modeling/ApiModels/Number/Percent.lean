import ApiModels.Number.Shortest

/-!
# Percentages

A share is computed in 64-bit arithmetic, as a quotient times one hundred, and written with one
decimal place, rounded from its exact value with a tie going to the even digit.
-/

namespace ApiModels.Number

/-- The share of `kept` in `total`, in percent; zero of nothing. -/
def percent (kept total : Nat) : Binary64 :=
  if total = 0 then .zero false
  else ((Binary64.ofNat kept).div (Binary64.ofNat total)).mul (Binary64.ofNat 100)

/-- A finite number, not negative, with one decimal place. -/
def oneDecimal (x : Binary64) : List Char :=
  let tenths := roundHalfEven (x.magnitude.1 * 10) x.magnitude.2
  natDigits (tenths / 10) ++ '.' :: natDigits (tenths % 10)

example : oneDecimal (percent 1 3) = ['3', '3', '.', '3'] := by decide +kernel
example : oneDecimal (percent 1 16) = ['6', '.', '2'] := by decide +kernel

end ApiModels.Number
