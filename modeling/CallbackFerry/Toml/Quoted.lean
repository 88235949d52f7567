import CallbackFerry.Text.Hex
import CallbackFerry.Toml.Gap

/-!
# Quoted text

TOML quotes text in four ways: between double quotes, where a backslash escapes; between single
quotes, where nothing does; and both also between tripled quotes, where the text may run over
several lines.  A line end directly behind the opening quotes is dropped, and one or two quotes may
stand anywhere in a tripled text, also directly before the closing ones.
-/

namespace CallbackFerry.Toml

/-! ### Escapes -/

/-- A character by its number, of exactly `count` digits; a surrogate is none. -/
def codePoint (count : Nat) : Reader Char := fun input =>
  let digits := input.take count
  let number := Hex.number digits
  if digits.length = count ∧ digits.all (fun c => (Hex.value? c).isSome) ∧ number.isValidChar then
    some (Char.ofNat number, input.drop count)
  else none

/-- What an escape behind its backslash stands for. -/
def escape : Reader Char := do
  match ← Reader.char fun _ => true with
  | 'b' => return '\x08'
  | 't' => return '\t'
  | 'n' => return '\n'
  | 'f' => return '\x0c'
  | 'r' => return '\r'
  | '"' => return '"'
  | '\\' => return '\\'
  | 'u' => codePoint 4
  | 'U' => codePoint 8
  | _ => failure

/-! ### On one line -/

/-- The characters that stand for themselves between double quotes. -/
def isBasicChar (c : Char) : Bool :=
  isCommentChar c && c != '"' && c != '\\'

/-- The characters that may stand between single quotes. -/
def isLiteralChar (c : Char) : Bool :=
  isCommentChar c && c != '\''

/-- An escape with its backslash. -/
def escaped : Reader Char := do
  Reader.exactly ['\\']
  escape

/-- A text between double quotes. -/
def basicText : Reader String := do
  Reader.exactly ['"']
  let content ← Reader.many (Reader.char isBasicChar <|> escaped)
  Reader.exactly ['"']
  return String.ofList content

/-- A text between single quotes. -/
def literalText : Reader String := do
  Reader.exactly ['\'']
  let content ← Reader.span isLiteralChar
  Reader.exactly ['\'']
  return String.ofList content

/-! ### On several lines -/

/-- A line end inside a text, however it is written. -/
def innerNewline : Reader (List Char) := do
  newline
  return ['\n']

/-- A backslash at the end of a line: it and all blanks and line ends behind it say nothing. -/
def joinedLines : Reader (List Char) := do
  Reader.exactly ['\\']
  gap
  newline
  let _ ← Reader.many ((do let _ ← Reader.spanSome isGap) <|> newline)
  return []

/-- One or two quotes inside a tripled text. -/
def innerQuotes (quote : Char) : Reader (List Char) := do
  let quotes ← Reader.spanSome (· == quote)
  Reader.require (quotes.length < 3)
  return quotes

/-- The closing quotes of a tripled text, with the one or two that belong to the text itself. -/
def closingQuotes (quote : Char) : Reader (List Char) := do
  let quotes ← Reader.spanSome (· == quote)
  Reader.require (3 ≤ quotes.length && quotes.length ≤ 5)
  return quotes.drop 3

/-- A text between tripled quotes, made of the given pieces. -/
def tripledText (quote : Char) (piece : Reader (List Char)) : Reader String := do
  Reader.exactly [quote, quote, quote]
  let _ ← Reader.maybe newline
  let pieces ← Reader.many (piece <|> innerNewline <|> innerQuotes quote)
  let last ← closingQuotes quote
  return String.ofList (pieces.flatten ++ last)

/-- A text between tripled double quotes. -/
def basicLines : Reader String :=
  tripledText '"' ((List.singleton <$> Reader.char isBasicChar) <|> joinedLines
    <|> (List.singleton <$> escaped))

/-- A text between tripled single quotes. -/
def literalLines : Reader String :=
  tripledText '\'' (List.singleton <$> Reader.char isLiteralChar)

/-- A quoted text of any kind.  Three quotes always open a text of several lines. -/
def quotedText : Reader String := fun input =>
  match input with
  | '"' :: '"' :: '"' :: _ => basicLines input
  | '"' :: _ => basicText input
  | '\'' :: '\'' :: '\'' :: _ => literalLines input
  | _ => literalText input

end CallbackFerry.Toml
