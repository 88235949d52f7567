import CallbackFerry.Number.Rounding

/-!
# Binary64 numbers, held exactly

Settings hold one fraction, a binary64 number.  Here such a number is its exact value: a sign, a
whole mantissa below `2 ^ 53` and a power of two, or an infinity, or not a number.  All arithmetic
on it is exact arithmetic on whole numbers followed by one rounding, `Binary64.ofQuotient`.
-/

namespace CallbackFerry

/-- A binary64 number.  `finite negative mantissa exponent` is `± mantissa * 2 ^ exponent`; the
two zeros are told apart by their sign. -/
inductive Binary64 where
  | finite (negative : Bool) (mantissa : Nat) (exponent : Int)
  | infinite (negative : Bool)
  | nan
  deriving DecidableEq, Repr, Inhabited

namespace Binary64

/-- The least exponent, that of the subnormal numbers. -/
def minExponent : Int := -1074

/-- The greatest exponent of a mantissa of 53 bits. -/
def maxExponent : Int := 971

/-- The zero of a sign. -/
def zero (negative : Bool) : Binary64 := .finite negative 0 minExponent

/-- `n * 2 ^ e` as a quotient of whole numbers. -/
def scaled (n : Nat) (e : Int) : Nat × Nat :=
  match e with
  | .ofNat k => (n * Nat.pow 2 k, 1)
  | .negSucc k => (n, Nat.pow 2 (k + 1))

/-- The exponent that leaves 53 bits before the point of `n / d`, or the least exponent. -/
def exponentFor (n d : Nat) : Int :=
  let guess : Int := (n.log2 : Int) - d.log2 - 53
  let (top, bottom) := scaled n (-guess)
  let fitted := if top / (bottom * d) < Nat.pow 2 53 then guess else guess + 1
  max fitted minExponent

/-- The binary64 number nearest to `± n / d`, a half going to the even mantissa; too large a
quotient becomes an infinity. -/
def ofQuotient (negative : Bool) (n d : Nat) : Binary64 :=
  if n = 0 then zero negative
  else
    let exponent := exponentFor n d
    let (top, bottom) := scaled n (-exponent)
    let mantissa := roundQuotient top (bottom * d)
    let (mantissa, exponent) :=
      if mantissa = Nat.pow 2 53 then (Nat.pow 2 52, exponent + 1) else (mantissa, exponent)
    if maxExponent < exponent then .infinite negative else .finite negative mantissa exponent

/-- The number nearest to a whole number. -/
def ofInt (n : Int) : Binary64 :=
  ofQuotient (decide (n < 0)) n.natAbs 1

/-- The number nearest to `± digits * 10 ^ exponent`.  Exponents beyond the reach of binary64 are
cut short, so that the powers of ten stay small. -/
def ofDecimal (negative : Bool) (digits : Nat) (exponent : Int) : Binary64 :=
  if digits = 0 then zero negative
  else
    let magnitude : Int := (Nat.toDigits 10 digits).length + exponent
    if 310 < magnitude then .infinite negative
    else if magnitude < -330 then zero negative
    else match exponent with
      | .ofNat k => ofQuotient negative (digits * Nat.pow 10 k) 1
      | .negSucc k => ofQuotient negative digits (Nat.pow 10 (k + 1))

/-- A finite number multiplied by a quotient `n / d` and rounded once; the rest stay as they are. -/
def timesQuotient (x : Binary64) (n d : Nat) : Binary64 :=
  match x with
  | .finite negative mantissa exponent =>
    let (top, bottom) := scaled mantissa exponent
    ofQuotient negative (top * n) (bottom * d)
  | other => other

/-- The number with the opposite sign. -/
def opposite : Binary64 → Binary64
  | .finite negative mantissa exponent => .finite (!negative) mantissa exponent
  | .infinite negative => .infinite (!negative)
  | .nan => .nan

/-- Whether the number lies between zero and one, both included.  The negative zero does. -/
def isProbability : Binary64 → Bool
  | .finite negative mantissa exponent =>
    let (top, bottom) := scaled mantissa exponent
    if negative then mantissa == 0 else decide (top ≤ bottom)
  | _ => false

/-- Whether `draw`, one of `bound` equally likely numbers, falls into the share that the number
stands for. -/
def covers (x : Binary64) (draw bound : Nat) : Bool :=
  match x with
  | .finite false mantissa exponent =>
    let (top, bottom) := scaled mantissa exponent
    decide (draw * bottom < top * bound)
  | _ => false

end Binary64
end CallbackFerry
