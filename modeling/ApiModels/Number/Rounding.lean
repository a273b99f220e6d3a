/-!
# Rounding a quotient

`roundHalfEven num den` is the integer nearest to `num / den`; of two equally near ones the even
one.
-/

namespace ApiModels.Number

/-- The integer nearest to `num / den`, a half going to the even neighbour. -/
def roundHalfEven (num den : Nat) : Nat :=
  let floor := num / den
  let twice := 2 * (num % den)
  if twice < den then floor
  else if den < twice then floor + 1
  else if floor % 2 = 0 then floor else floor + 1

end ApiModels.Number
