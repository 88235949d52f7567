import CallbackFerry.Settings.Value
import CallbackFerry.Toml.Quoted

/-!
# Single values

Whole numbers, numbers with a fraction, dates and times, truth values and texts.  A number must fit
its range: a whole number sixty-four bits with a sign, and a number with a fraction must not grow
beyond all bounds, though the negative may.
-/

namespace CallbackFerry.Toml

/-! ### Digits -/

/-- More digits, each possibly behind one underscore. -/
def moreDigits (isDigit : Char → Bool) : Reader (List Char) :=
  Reader.many do
    let _ ← Reader.maybe (Reader.exactly ['_'])
    Reader.char isDigit

/-- Digits with single underscores between them. -/
def digits (isDigit : Char → Bool) : Reader (List Char) := do
  let first ← Reader.char isDigit
  return first :: (← moreDigits isDigit)

/-- Whether a sign is a minus. -/
def sign : Reader Bool := do
  match ← Reader.maybe (Reader.char fun c => c == '+' || c == '-') with
  | some c => return c == '-'
  | none => return false

/-- Decimal digits that do not begin with a zero, or a lone zero. -/
def wholeDigits : Reader (List Char) := do
  let first ← Reader.char Char.isDigit
  if first == '0' then return ['0'] else return first :: (← moreDigits Char.isDigit)

/-- The number that decimal digits stand for. -/
def decimalNumber (digits : List Char) : Nat :=
  digits.foldl (fun n c => n * 10 + (c.toNat - '0'.toNat)) 0

/-! ### Numbers -/

/-- A whole number that fits sixty-four bits with a sign. -/
def fitting (number : Int) : Reader Value := do
  Reader.require (-Nat.pow 2 63 ≤ number && number < Nat.pow 2 63)
  return .whole number

/-- A decimal whole number. -/
def decimalWhole : Reader Value := do
  let negative ← sign
  let number : Int := decimalNumber (← wholeDigits)
  fitting (if negative then -number else number)

/-- A whole number in another base, with its mark and without a sign. -/
def markedWhole (mark : Char) (base : Nat) : Reader Value := do
  Reader.exactly ['0', mark]
  let read ← digits fun c => (Hex.value? c).any (· < base)
  fitting (read.foldl (fun n c => n * base + (Hex.value? c).getD 0) 0 : Nat)

/-- A whole number. -/
def whole : Reader Value :=
  markedWhole 'x' 16 <|> markedWhole 'o' 8 <|> markedWhole 'b' 2 <|> decimalWhole

/-- The exponent of a number. -/
def exponent : Reader Int := do
  let _ ← Reader.char fun c => c == 'e' || c == 'E'
  let negative ← sign
  let size : Int := decimalNumber (← digits Char.isDigit)
  return if negative then -size else size

/-- A number with a fraction, an exponent or both; too large a positive one is refused. -/
def decimalFraction : Reader Value := do
  let negative ← sign
  let before ← wholeDigits
  let behind ← Reader.maybe do
    Reader.exactly ['.']
    digits Char.isDigit
  let power ← Reader.maybe exponent
  Reader.require (behind.isSome || power.isSome)
  let places := behind.getD []
  let number := Binary64.ofDecimal negative (decimalNumber (before ++ places))
    (power.getD 0 - places.length)
  Reader.require (number != .infinite false)
  return .fraction number

/-- An infinity, or not a number. -/
def unbounded : Reader Value := do
  let negative ← sign
  (do Reader.exactly "inf".toList; return .fraction (.infinite negative))
    <|> (do Reader.exactly "nan".toList; return .fraction .nan)

/-! ### Dates and times -/

/-- A number of exactly `count` digits, between bounds. -/
def fixedNumber (count low high : Nat) : Reader Nat := fun input =>
  let digits := input.take count
  let number := decimalNumber digits
  if digits.length = count ∧ digits.all Char.isDigit ∧ low ≤ number ∧ number ≤ high then
    some (number, input.drop count)
  else none

/-- How many days a month has. -/
def daysIn (year month : Nat) : Nat :=
  if month = 2 then
    if year % 4 = 0 ∧ (year % 100 ≠ 0 ∨ year % 400 = 0) then 29 else 28
  else if month = 4 ∨ month = 6 ∨ month = 9 ∨ month = 11 then 30
  else 31

/-- A day of the calendar. -/
def date : Reader Unit := do
  let year ← fixedNumber 4 0 9999
  Reader.exactly ['-']
  let month ← fixedNumber 2 1 12
  Reader.exactly ['-']
  let _ ← fixedNumber 2 1 (daysIn year month)

/-- Hours and minutes. -/
def clock : Reader Unit := do
  let _ ← fixedNumber 2 0 23
  Reader.exactly [':']
  let _ ← fixedNumber 2 0 59

/-- A time of day.  Seconds must be given, and a leap second may be. -/
def time : Reader Unit := do
  clock
  Reader.exactly [':']
  let _ ← fixedNumber 2 0 60
  let _ ← Reader.maybe do
    Reader.exactly ['.']
    Reader.spanSome Char.isDigit

/-- The distance from universal time. -/
def offset : Reader Unit :=
  (do let _ ← Reader.char fun c => c == 'Z' || c == 'z') <|> do
    let _ ← Reader.char fun c => c == '+' || c == '-'
    clock

/-- A date, a date with a time, or a time. -/
def moment : Reader Value :=
  (do
    date
    let _ ← Reader.maybe do
      let _ ← Reader.char fun c => c == 'T' || c == 't' || c == ' '
      time
      Reader.maybe offset
    return .moment)
  <|> (do time; return .moment)

/-! ### All single values -/

/-- A truth value. -/
def truth : Reader Value :=
  (do Reader.exactly "true".toList; return .boolean true)
    <|> (do Reader.exactly "false".toList; return .boolean false)

/-- A single value of any kind. -/
def scalar : Reader Value :=
  (Value.text <$> quotedText) <|> moment <|> decimalFraction <|> unbounded <|> whole <|> truth

end CallbackFerry.Toml
