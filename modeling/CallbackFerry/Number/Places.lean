import CallbackFerry.Number.Binary64

/-!
# Two decimal places

The exact value of a binary64 number, rounded to two decimal places, a half going to the even
neighbour.
-/

namespace CallbackFerry

/-- A count of hundredths with a point before the last two digits. -/
def hundredthsText (n : Nat) : String :=
  let low := n % 100
  toString (n / 100) ++ "." ++ (if low < 10 then "0" else "") ++ toString low

/-- The number rounded to two places. -/
def Binary64.twoPlaces : Binary64 → String
  | .nan => "NaN"
  | .infinite negative => if negative then "-inf" else "inf"
  | .finite negative mantissa exponent =>
    let (top, bottom) := scaled mantissa exponent
    (if negative then "-" else "") ++ hundredthsText (roundQuotient (top * 100) bottom)

end CallbackFerry
