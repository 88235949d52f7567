/-!
# Rounding a quotient

`roundQuotient n d` is the whole number nearest to `n / d`; a half goes to the even neighbour.
Both the conversion to binary and the writing of fixed decimal places rest on it.
-/

namespace CallbackFerry

/-- The whole number nearest to `n / d`, a half going to the even neighbour. -/
def roundQuotient (n d : Nat) : Nat :=
  let quotient := n / d
  let doubled := 2 * (n % d)
  if d < doubled ∨ (doubled = d ∧ quotient % 2 = 1) then quotient + 1 else quotient

end CallbackFerry
