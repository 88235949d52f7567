/-!
# JSON values

A JSON value keeps a number as the literal it was written with, so that nothing of it is lost, and
the fields of an object in the order written, with repetitions.  `Json.write` is the text without
blanks.  Inside strings the quote, the backslash, control characters and the line ends beyond ASCII
are escaped.
-/

namespace CallbackFerry

/-- A JSON value. -/
inductive Json where
  | null
  | bool (value : Bool)
  /-- A number, by its literal. -/
  | num (literal : String)
  | str (text : String)
  | arr (items : List Json)
  | obj (fields : List (String × Json))
  deriving Inhabited

namespace Json

/-! ### Writing -/

/-- Whether a character is written by its number. -/
def isEscaped (c : Char) : Bool :=
  c.toNat < 0x20 || c.toNat == 0x7F || c.toNat == 0x85 || c.toNat == 0x2028 || c.toNat == 0x2029

/-- One character inside a string. -/
def escape (c : Char) : List Char :=
  if c = '"' then ['\\', '"']
  else if c = '\\' then ['\\', '\\']
  else if isEscaped c then
    let n := c.toNat
    ['\\', 'u', Nat.digitChar (n / 4096), Nat.digitChar (n / 256 % 16),
      Nat.digitChar (n / 16 % 16), Nat.digitChar (n % 16)]
  else [c]

/-- A string. -/
def quoted (text : String) : String :=
  String.ofList ('"' :: text.toList.flatMap escape ++ ['"'])

mutual

/-- The text of a value. -/
def write : Json → String
  | .null => "null"
  | .bool value => if value then "true" else "false"
  | .num literal => literal
  | .str text => quoted text
  | .arr items => "[" ++ ",".intercalate (writeItems items) ++ "]"
  | .obj fields => "\x7b" ++ ",".intercalate (writeFields fields) ++ "\x7d"

/-- The texts of several values. -/
def writeItems : List Json → List String
  | [] => []
  | item :: rest => item.write :: writeItems rest

/-- The texts of several fields. -/
def writeFields : List (String × Json) → List String
  | [] => []
  | (key, value) :: rest => (quoted key ++ ":" ++ value.write) :: writeFields rest

end

/-! ### Making -/

/-- A number. -/
def ofNat (n : Nat) : Json := .num (toString n)

/-- A byte as a number. -/
def ofByte (byte : UInt8) : Json := .num (toString byte.toNat)

/-- A text or null. -/
def ofText? (text : Option String) : Json := text.elim .null .str

/-! ### Taking apart -/

/-- The last value of a field. -/
def get? (value : Json) (key : String) : Option Json :=
  match value with
  | .obj fields => fields.reverse.lookup key
  | _ => none

/-- The fields of an object. -/
def fields : Json → List (String × Json)
  | .obj fields => fields
  | _ => []

/-- The items of a list. -/
def items : Json → List Json
  | .arr items => items
  | _ => []

/-- The number, if it is a whole one. -/
def nat? : Json → Option Nat
  | .num literal => literal.toNat?
  | _ => none

/-- The text. -/
def str? : Json → Option String
  | .str text => some text
  | _ => none

/-- The truth value. -/
def bool? : Json → Option Bool
  | .bool value => some value
  | _ => none

end Json
end CallbackFerry
