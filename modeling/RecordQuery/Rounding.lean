/-! # Rounding a quotient

The nearest whole number to a quotient of natural numbers, a half going to the even neighbour. -/

namespace RecordQuery

/-- The whole number nearest to `num / den`; a half goes to the even neighbour. -/
def roundHalfEven (num den : Nat) : Nat :=
  let quotient := num / den
  let remainder := num % den
  if 2 * remainder < den || (2 * remainder == den && quotient % 2 == 0) then quotient
  else quotient + 1

end RecordQuery
