/-!
# Blank text

A text is blank if trimming leaves nothing of it: every character has the Unicode property
`White_Space`.  That is a fixed table of twenty-five characters.
-/

namespace CallbackFerry

/-- The characters with the Unicode property `White_Space`. -/
def isBlankChar (c : Char) : Bool :=
  (0x09 ≤ c.toNat && c.toNat ≤ 0x0D) || c.toNat == 0x20 || c.toNat == 0x85 || c.toNat == 0xA0
    || c.toNat == 0x1680 || (0x2000 ≤ c.toNat && c.toNat ≤ 0x200A) || c.toNat == 0x2028
    || c.toNat == 0x2029 || c.toNat == 0x202F || c.toNat == 0x205F || c.toNat == 0x3000

/-- Whether trimming leaves nothing of the text. -/
def isBlank (text : String) : Bool :=
  text.toList.all isBlankChar

end CallbackFerry
