/-!
# Bytes and their hexadecimal text

A message payload is a list of bytes.  Log lines show bytes in three ways: a single code behind
`0x`, a bracketed listing of two-digit codes, and a bracketed listing in decimal.  `Hex.ofBytes`
runs the two-digit codes together, high half first.  `Hex.number` reads digits of either case.
-/

namespace CallbackFerry

/-- The bytes of one message, in the order they were received. -/
abbrev Bytes := List UInt8

namespace Hex

/-- The two digits of one byte, high half first. -/
def pair (byte : UInt8) : List Char :=
  [Nat.digitChar (byte.toNat / 16), Nat.digitChar (byte.toNat % 16)]

/-- One byte as two lowercase digits. -/
def ofByte (byte : UInt8) : String :=
  String.ofList (pair byte)

/-- One byte as a code: two lowercase digits behind `0x`. -/
def code (byte : UInt8) : String :=
  "0x" ++ ofByte byte

/-- All bytes as digits with nothing between them. -/
def ofBytes (bytes : Bytes) : String :=
  String.ofList (bytes.flatMap pair)

/-- A bracketed listing of two-digit codes. -/
def listing (bytes : Bytes) : String :=
  "[" ++ ", ".intercalate (bytes.map ofByte) ++ "]"

/-- The value of a digit of either case. -/
def value? (c : Char) : Option Nat :=
  if '0' ≤ c ∧ c ≤ '9' then some (c.toNat - '0'.toNat)
  else if 'a' ≤ c ∧ c ≤ 'f' then some (c.toNat - 'a'.toNat + 10)
  else if 'A' ≤ c ∧ c ≤ 'F' then some (c.toNat - 'A'.toNat + 10)
  else none

/-- The number that digits stand for; what is no digit counts as a zero. -/
def number (digits : List Char) : Nat :=
  digits.foldl (fun n c => n * 16 + (value? c).getD 0) 0

/-- The bytes of a text of paired digits. -/
def bytes : List Char → Bytes
  | high :: low :: rest => UInt8.ofNat (number [high, low]) :: bytes rest
  | _ => []

end Hex

/-- A bracketed listing of the bytes in decimal. -/
def Bytes.decimalListing (bytes : Bytes) : String :=
  "[" ++ ", ".intercalate (bytes.map fun byte => toString byte.toNat) ++ "]"

end CallbackFerry
