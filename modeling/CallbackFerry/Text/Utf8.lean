import CallbackFerry.Text.Hex

/-!
# Reading bytes as text

Device texts arrive as bytes that need not be valid UTF-8.  `Utf8.decodeLossy` keeps every
well-formed character and puts U+FFFD, the replacement character, for each *maximal* broken
piece: the longest run of bytes that begins a character and then stops being one.  The ranges of
the second byte depend on the first (`Utf8.lead`), so overlong forms, surrogates and numbers above
U+10FFFF are broken from their second byte on.
-/

namespace CallbackFerry.Utf8

/-- What a first byte promises: how many bytes follow it, and the range of the next one. -/
structure Lead where
  /-- The bytes still owed. -/
  owed : Nat
  /-- The least value the next byte may have. -/
  low : UInt8
  /-- The greatest value the next byte may have. -/
  high : UInt8
  /-- The bits of the first byte that belong to the character. -/
  bits : Nat

/-- The promise of a first byte of a longer character; no promise if no character starts so. -/
def lead (byte : UInt8) : Option Lead :=
  if 0xC2 ≤ byte ∧ byte ≤ 0xDF then some ⟨1, 0x80, 0xBF, byte.toNat - 0xC0⟩
  else if byte = 0xE0 then some ⟨2, 0xA0, 0xBF, 0⟩
  else if byte = 0xED then some ⟨2, 0x80, 0x9F, 0xD⟩
  else if 0xE1 ≤ byte ∧ byte ≤ 0xEF then some ⟨2, 0x80, 0xBF, byte.toNat - 0xE0⟩
  else if byte = 0xF0 then some ⟨3, 0x90, 0xBF, 0⟩
  else if 0xF1 ≤ byte ∧ byte ≤ 0xF3 then some ⟨3, 0x80, 0xBF, byte.toNat - 0xF0⟩
  else if byte = 0xF4 then some ⟨3, 0x80, 0x8F, 4⟩
  else none

/-- The character written for a broken piece. -/
def replacement : Char := '\uFFFD'

/-- Reads on with `owed` bytes missing of a character whose bits so far are `bits`, the next byte
lying between `low` and `high`.  A byte out of range ends the broken piece and is read afresh. -/
def decodeFrom : (owed : Nat) → (low high : UInt8) → (bits : Nat) → Bytes → List Char
  | 0, _, _, _, [] => []
  | _ + 1, _, _, _, [] => [replacement]
  | 0, _, _, _, byte :: rest =>
    if byte < 0x80 then Char.ofNat byte.toNat :: decodeFrom 0 0 0 0 rest
    else match lead byte with
      | some l => decodeFrom l.owed l.low l.high l.bits rest
      | none => replacement :: decodeFrom 0 0 0 0 rest
  | owed + 1, low, high, bits, byte :: rest =>
    if low ≤ byte ∧ byte ≤ high then
      let grown := bits * 64 + (byte.toNat - 0x80)
      match owed with
      | 0 => Char.ofNat grown :: decodeFrom 0 0 0 0 rest
      | more + 1 => decodeFrom (more + 1) 0x80 0xBF grown rest
    else if byte < 0x80 then
      replacement :: Char.ofNat byte.toNat :: decodeFrom 0 0 0 0 rest
    else match lead byte with
      | some l => replacement :: decodeFrom l.owed l.low l.high l.bits rest
      | none => replacement :: replacement :: decodeFrom 0 0 0 0 rest

/-- The text of the bytes, each maximal broken piece replaced by U+FFFD. -/
def decodeLossy (bytes : Bytes) : String :=
  String.ofList (decodeFrom 0 0 0 0 bytes)

end CallbackFerry.Utf8
