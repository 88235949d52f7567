import CallbackFerry.Json.Basic
import CallbackFerry.Settings.Value

/-!
# JSON as plain data

`Json.plain` turns a JSON value into plain data; of several fields of one name the last counts.
What needs care are number literals.

A literal without fraction and exponent that fits sixty-four bits is a whole number.  Any other is
read in two roundings: the digits, as far as they fit sixty-four bits, are rounded to a binary64
number, and that is multiplied or divided by the power of ten, itself rounded, and rounded again.
So the last bit of a long literal may differ from that of the nearest number.  Powers beyond
`10 ^ 308` are taken in steps.
-/

namespace CallbackFerry.Literal

/-- The leading digits that fit sixty-four bits, and how many places of the number are left out or
lie behind the point. -/
structure Significand where
  /-- The digits so far. -/
  digits : Nat := 0
  /-- The power of ten they are to be multiplied by. -/
  exponent : Int := 0
  /-- Whether a digit of the fraction no longer fitted, so that the rest of them is dropped. -/
  full : Bool := false

namespace Significand

/-- Takes in a digit before the point; one that does not fit counts as a place. -/
def addWhole (s : Significand) (digit : Nat) : Significand :=
  if s.full || decide (Nat.pow 2 64 ≤ s.digits * 10 + digit) then
    { s with exponent := s.exponent + 1, full := true }
  else { s with digits := s.digits * 10 + digit }

/-- Takes in a digit behind the point; one that does not fit is dropped, and all after it. -/
def addFraction (s : Significand) (digit : Nat) : Significand :=
  if s.full || decide (Nat.pow 2 64 ≤ s.digits * 10 + digit) then { s with full := true }
  else { s with digits := s.digits * 10 + digit, exponent := s.exponent - 1 }

/-- The significand of a row of digits before the point and one behind it. -/
def ofDigits (whole fraction : List Char) : Significand :=
  let value (c : Char) : Nat := c.toNat - '0'.toNat
  let before : Significand := whole.foldl (fun s c => s.addWhole (value c)) {}
  fraction.foldl (fun s c => s.addFraction (value c)) { before with full := false }

end Significand

/-- A number multiplied by the rounded power `10 ^ exponent`, or divided by `10 ^ (-exponent)`;
`steps` bounds how often `10 ^ 308` is divided out first. -/
def scale : (steps : Nat) → Binary64 → (exponent : Int) → Binary64
  | 0, x, _ => x
  | steps + 1, x, exponent =>
    match Binary64.ofDecimal false 1 (min exponent.natAbs 308 : Nat) with
    | .finite _ mantissa power =>
      let (top, bottom) := Binary64.scaled mantissa power
      if 0 ≤ exponent then x.timesQuotient top bottom
      else if -308 ≤ exponent then x.timesQuotient bottom top
      else scale steps (x.timesQuotient bottom top) (exponent + 308)
    | _ => x

/-- The number of a literal with a fraction or an exponent.  Four divisions by `10 ^ 308` leave
nothing of any significand. -/
def binary64 (negative : Bool) (s : Significand) (exponent : Int) : Binary64 :=
  let size := scale 4 (.ofInt s.digits) (max (-1300) (s.exponent + exponent))
  if negative then size.opposite else size

/-- The digits of an exponent behind its sign. -/
def exponentOf : List Char → Int
  | '-' :: digits => -((String.ofList digits).toNat?.getD 0 : Nat)
  | '+' :: digits => ((String.ofList digits).toNat?.getD 0 : Nat)
  | digits => ((String.ofList digits).toNat?.getD 0 : Nat)

/-- The value of a literal.  A negative zero is a number with a fraction. -/
def value (literal : String) : Value :=
  let (negative, unsigned) :=
    match literal.toList with
    | '-' :: rest => (true, rest)
    | rest => (false, rest)
  let (whole, rest) := unsigned.span Char.isDigit
  let (fraction, rest) :=
    match rest with
    | '.' :: behind => behind.span Char.isDigit
    | rest => ([], rest)
  let number : Nat := (String.ofList whole).toNat?.getD 0
  let significand := Significand.ofDigits whole fraction
  match fraction, rest with
  | [], [] =>
    if negative then
      if 0 < number ∧ number ≤ Nat.pow 2 63 then .whole (-number)
      else .fraction (binary64 true significand 0)
    else if number < Nat.pow 2 64 then .whole number
    else .fraction (binary64 false significand 0)
  | _, [] => .fraction (binary64 negative significand 0)
  | _, _ :: exponent => .fraction (binary64 negative significand (exponentOf exponent))

end CallbackFerry.Literal

namespace CallbackFerry.Json

/-- Fields without those whose name comes again later. -/
def lastFields (fields : List (String × Value)) : List (String × Value) :=
  fields.foldr (fun field kept =>
    if (kept.lookup field.1).isSome then kept else field :: kept) []

mutual

/-- The value as plain data. -/
def plain : Json → Value
  | .null => .null
  | .bool value => .boolean value
  | .num literal => Literal.value literal
  | .str text => .text text
  | .arr items => .list (plainItems items)
  | .obj fields => .table (lastFields (plainFields fields))

/-- Several values as plain data. -/
def plainItems : List Json → List Value
  | [] => []
  | item :: rest => item.plain :: plainItems rest

/-- Several fields as plain data. -/
def plainFields : List (String × Json) → List (String × Value)
  | [] => []
  | (key, value) :: rest => (key, value.plain) :: plainFields rest

end

end CallbackFerry.Json
