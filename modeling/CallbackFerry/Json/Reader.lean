import CallbackFerry.Json.Basic
import CallbackFerry.Text.Hex

/-!
# Reading JSON

`Json.read?` reads one value and nothing behind it but blanks.  A number is taken as it stands: all
characters that can belong to one.  An escape may stand for half of a character beyond the basic
plane; two such halves in a row are put together.
-/

namespace CallbackFerry.Json

/-- Whether a character is a blank between tokens. -/
def isSpace (c : Char) : Bool :=
  c == ' ' || c == '\t' || c == '\n' || c == '\r'

/-- Whether a character can belong to a number. -/
def isNumberChar (c : Char) : Bool :=
  c.isDigit || c == '-' || c == '+' || c == '.' || c == 'e' || c == 'E'

/-- The character that an escape of one letter stands for. -/
def shortEscape : Char → Char
  | 'n' => '\n'
  | 't' => '\t'
  | 'r' => '\r'
  | 'b' => '\x08'
  | 'f' => '\x0c'
  | c => c

/-- The character of two halves. -/
def joined (high low : Nat) : Char :=
  Char.ofNat (0x10000 + (high - 0xD800) * 1024 + (low - 0xDC00))

/-- Reads a string behind its opening quote. -/
def readString : List Char → Option (List Char × List Char)
  | [] => none
  | '"' :: rest => some ([], rest)
  | '\\' :: 'u' :: a :: b :: c :: d :: '\\' :: 'u' :: e :: f :: g :: h :: rest =>
    let high := Hex.number [a, b, c, d]
    let low := Hex.number [e, f, g, h]
    if 0xD800 ≤ high ∧ high < 0xDC00 ∧ 0xDC00 ≤ low ∧ low < 0xE000 then
      (readString rest).map fun (more, rest) => (joined high low :: more, rest)
    else
      (readString ('\\' :: 'u' :: e :: f :: g :: h :: rest)).map fun (more, rest) =>
        (Char.ofNat high :: more, rest)
  | '\\' :: 'u' :: a :: b :: c :: d :: rest =>
    (readString rest).map fun (more, rest) =>
      (Char.ofNat (Hex.number [a, b, c, d]) :: more, rest)
  | '\\' :: c :: rest =>
    (readString rest).map fun (more, rest) => (shortEscape c :: more, rest)
  | c :: rest => (readString rest).map fun (more, rest) => (c :: more, rest)

/-- What remains behind blanks. -/
def skip (input : List Char) : List Char :=
  input.dropWhile isSpace

mutual

/-- Reads a value.  Every value and every comma takes a step of the room. -/
def readValue : (room : Nat) → List Char → Option (Json × List Char)
  | 0, _ => none
  | room + 1, input =>
    match skip input with
    | '"' :: rest => (readString rest).map fun (text, rest) => (.str (String.ofList text), rest)
    | '[' :: rest =>
      match skip rest with
      | ']' :: rest => some (.arr [], rest)
      | rest => (readItems room rest).map fun (items, rest) => (.arr items, rest)
    | '\x7b' :: rest =>
      match skip rest with
      | '\x7d' :: rest => some (.obj [], rest)
      | rest => (readFields room rest).map fun (fields, rest) => (.obj fields, rest)
    | 't' :: 'r' :: 'u' :: 'e' :: rest => some (.bool true, rest)
    | 'f' :: 'a' :: 'l' :: 's' :: 'e' :: rest => some (.bool false, rest)
    | 'n' :: 'u' :: 'l' :: 'l' :: rest => some (.null, rest)
    | rest =>
      match rest.takeWhile isNumberChar with
      | [] => none
      | literal => some (.num (String.ofList literal), rest.dropWhile isNumberChar)

/-- Reads the items of a list that is not empty, up to the closing bracket. -/
def readItems : (room : Nat) → List Char → Option (List Json × List Char)
  | 0, _ => none
  | room + 1, input =>
    match readValue room input with
    | none => none
    | some (item, rest) =>
      match skip rest with
      | ',' :: rest => (readItems room rest).map fun (items, rest) => (item :: items, rest)
      | ']' :: rest => some ([item], rest)
      | _ => none

/-- Reads the fields of an object that is not empty, up to the closing bracket. -/
def readFields : (room : Nat) → List Char → Option (List (String × Json) × List Char)
  | 0, _ => none
  | room + 1, input =>
    match skip input with
    | '"' :: rest =>
      match (readString rest).map fun (key, rest) => (String.ofList key, skip rest) with
      | some (key, ':' :: rest) =>
        match readValue room rest with
        | none => none
        | some (value, rest) =>
          match skip rest with
          | ',' :: rest =>
            (readFields room rest).map fun (fields, rest) => ((key, value) :: fields, rest)
          | '\x7d' :: rest => some ([(key, value)], rest)
          | _ => none
      | _ => none
    | _ => none

end

/-- Reads a text that is one value.  Two steps for each character are always enough. -/
def read? (text : String) : Option Json :=
  let input := text.toList
  match readValue (2 * input.length + 2) input with
  | some (value, rest) => if rest.all isSpace then some value else none
  | none => none

end CallbackFerry.Json
