import CallbackFerry.Number.Binary64

/-!
# The fewest digits that read back

A binary64 number is written with the fewest decimal digits that still round to it, and of those
with the ones nearest to it.  `Binary64.shortest?` walks the decimal grids from the coarsest one on
and takes, from the first grid that has a point in the interval of reals rounding to the number,
the point nearest to it.  The ends of that interval belong to it exactly if the mantissa is even.

The text is always positional, without an exponent; a whole number has no point.
-/

namespace CallbackFerry

/-- The number `digits * 10 ^ exponent`. -/
structure Decimal where
  /-- The digits, as a whole number. -/
  digits : Nat
  /-- The power of ten. -/
  exponent : Int
  deriving DecidableEq, Repr

namespace Decimal

/-- The positional digits: a whole number, or a point with digits on both sides. -/
def text (d : Decimal) : String :=
  let shown := Nat.toDigits 10 d.digits
  match d.exponent with
  | .ofNat k => String.ofList (shown ++ List.replicate k '0')
  | .negSucc k =>
    let places := k + 1
    let padded := List.replicate (places + 1 - shown.length) '0' ++ shown
    let whole := padded.length - places
    String.ofList (padded.take whole ++ '.' :: padded.drop whole)

/-- The digits without trailing zeros. -/
def trim (d : Decimal) : Decimal :=
  let zeros := ((Nat.toDigits 10 d.digits).reverse.takeWhile (· == '0')).length
  if d.digits = 0 then d else ⟨d.digits / Nat.pow 10 zeros, d.exponent + zeros⟩

end Decimal

/-- The interval of reals that round to one number, over a common denominator. -/
structure Basin where
  /-- The lower end. -/
  low : Nat
  /-- The number itself. -/
  centre : Nat
  /-- The upper end. -/
  high : Nat
  /-- The common denominator. -/
  bottom : Nat
  /-- Whether the ends themselves round to the number. -/
  closed : Bool

namespace Basin

/-- The interval around `mantissa * 2 ^ exponent`.  Below a power of two the numbers lie twice as
dense, so the interval reaches half as far down. -/
def around (mantissa : Nat) (exponent : Int) : Basin :=
  let reach := if mantissa = Nat.pow 2 52 ∧ Binary64.minExponent < exponent then 1 else 2
  let (unit, bottom) := Binary64.scaled 1 (exponent - 2)
  { low := (4 * mantissa - reach) * unit
    centre := 4 * mantissa * unit
    high := (4 * mantissa + 2) * unit
    bottom := bottom
    closed := mantissa % 2 == 0 }

/-- Whether `point * grid / bottom` lies in the interval scaled by `zoom`. -/
def holds (b : Basin) (zoom grid point : Nat) : Bool :=
  if b.closed then decide (b.low * zoom ≤ point * grid ∧ point * grid ≤ b.high * zoom)
  else decide (b.low * zoom < point * grid ∧ point * grid < b.high * zoom)

/-- The point of the grid of multiples of `10 ^ k` that lies in the interval nearest to its
centre; of two equally near the upper one. -/
def nearest? (b : Basin) (k : Int) : Option Nat :=
  let (zoom, grid) : Nat × Nat :=
    match k with
    | .ofNat j => (1, b.bottom * Nat.pow 10 j)
    | .negSucc j => (Nat.pow 10 (j + 1), b.bottom)
  let centre := b.centre * zoom
  let below := centre / grid
  let upperIsNearer := decide (grid ≤ 2 * (centre % grid))
  match b.holds zoom grid below, b.holds zoom grid (below + 1) with
  | true, true => some (if upperIsNearer then below + 1 else below)
  | true, false => some below
  | false, true => some (below + 1)
  | false, false => none

/-- The first hit on the grids `10 ^ k`, `10 ^ (k - 1)`, …, at most `grids` of them. -/
def search (b : Basin) : (grids : Nat) → (k : Int) → Option Decimal
  | 0, _ => none
  | grids + 1, k =>
    match b.nearest? k with
    | some point => some ⟨point, k⟩
    | none => b.search grids (k - 1)

end Basin

namespace Binary64

/-- The decimal of fewest digits that reads back as `mantissa * 2 ^ exponent`.  No binary64 number
needs a grid below `10 ^ (-1074)`, and seventeen digits always suffice. -/
def shortest? (mantissa : Nat) (exponent : Int) : Option Decimal :=
  let b := Basin.around mantissa exponent
  let wholeDigits := (Nat.toDigits 10 (b.centre / b.bottom)).length
  let leading : Int :=
    if b.bottom ≤ b.centre then wholeDigits
    else -(((Nat.toDigits 10 (b.bottom / b.centre)).length : Int) - 1)
  (b.search 20 leading).map Decimal.trim

/-- The text of a number: fewest digits, never an exponent, no point in a whole number. -/
def text : Binary64 → String
  | .nan => "NaN"
  | .infinite negative => if negative then "-inf" else "inf"
  | .finite negative mantissa exponent =>
    let sign := if negative then "-" else ""
    if mantissa = 0 then sign ++ "0"
    else match shortest? mantissa exponent with
      | some d => sign ++ d.text
      | none => sign ++ "0"

/-- Whether the number is finite and has no fraction. -/
def isWhole : Binary64 → Bool
  | .finite _ mantissa exponent =>
    let (top, bottom) := scaled mantissa exponent
    top % bottom == 0
  | _ => false

end Binary64
end CallbackFerry
