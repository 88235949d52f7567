import CallbackFerry.Number.Shortest

/-!
# Writing values

How single values are written in TOML.  A text is written in the plainest of the four quoted forms
that can hold it as it is, tried in the order of `quote`; if none can, double quotes with escapes
are used.  A number with a fraction always shows one.
-/

namespace CallbackFerry.Toml

/-- What decides on the form of a text. -/
structure Features where
  /-- A control character, the tab and the line feed excepted. -/
  control : Bool
  /-- A backslash. -/
  backslash : Bool
  /-- A line feed. -/
  lineFeed : Bool
  /-- The most double quotes in a row. -/
  doubleQuotes : Nat
  /-- The most single quotes in a row. -/
  singleQuotes : Nat

/-- The length of the longest row of a character. -/
def longestRow (c : Char) (content : List Char) : Nat :=
  (content.foldl (fun (row : Nat × Nat) d =>
    let current := if c = d then row.1 + 1 else 0
    (current, max row.2 current)) (0, 0)).2

/-- The features of a text. -/
def features (content : List Char) : Features where
  control := content.any fun c => (c.toNat < 0x20 && c != '\t' && c != '\n') || c == '\x7f'
  backslash := content.contains '\\'
  lineFeed := content.contains '\n'
  doubleQuotes := longestRow '"' content
  singleQuotes := longestRow '\'' content

/-- The digits of a control character behind its mark. -/
def controlCode (c : Char) : List Char :=
  let digit (n : Nat) : Char := (Nat.digitChar n).toUpper
  ['\\', 'u', '0', '0', digit (c.toNat / 16), digit (c.toNat % 16)]

/-- A character between double quotes, a quote excepted.  A line feed stands for itself where the
text may run over several lines. -/
def escapeChar (severalLines : Bool) (c : Char) : List Char :=
  match c with
  | '\x08' => ['\\', 'b']
  | '\t' => ['\\', 't']
  | '\n' => if severalLines then ['\n'] else ['\\', 'n']
  | '\x0c' => ['\\', 'f']
  | '\r' => ['\\', 'r']
  | '\\' => ['\\', '\\']
  | c => if c.toNat < 0x20 ∨ c = '\x7f' then controlCode c else [c]

/-- The characters between double quotes, when up to `allowed` quotes in a row stand for themselves
and `seen` have just been written. -/
def escapeText (severalLines : Bool) (allowed : Nat) : (seen : Nat) → List Char → List Char
  | _, [] => []
  | seen, '"' :: rest =>
    if seen < allowed then '"' :: escapeText severalLines allowed (seen + 1) rest
    else '\\' :: '"' :: escapeText severalLines allowed 0 rest
  | _, c :: rest => escapeChar severalLines c ++ escapeText severalLines allowed 0 rest

/-- Between double quotes. -/
def asBasic (content : List Char) : List Char :=
  '"' :: escapeText false 0 0 content ++ ['"']

/-- Between single quotes. -/
def asLiteral (content : List Char) : List Char :=
  '\'' :: content ++ ['\'']

/-- What follows the opening quotes of a text on several lines. -/
def opening (content : List Char) : List Char :=
  if content.contains '\n' then ['\n'] else []

/-- Between tripled double quotes. -/
def asBasicLines (content : List Char) : List Char :=
  ['"', '"', '"'] ++ opening content ++ escapeText true 2 0 content ++ ['"', '"', '"']

/-- Between tripled single quotes. -/
def asLiteralLines (content : List Char) : List Char :=
  ['\'', '\'', '\''] ++ opening content ++ content ++ ['\'', '\'', '\'']

/-- A text, in the plainest form that can hold it. -/
def quote (content : String) : String :=
  let content := content.toList
  let f := features content
  String.ofList <|
    if !f.control && !f.backslash && f.doubleQuotes == 0 && !f.lineFeed then asBasic content
    else if !f.control && f.singleQuotes == 0 && !f.lineFeed then asLiteral content
    else if !f.control && !f.backslash && f.doubleQuotes ≤ 2 then asBasicLines content
    else if !f.control && f.singleQuotes ≤ 2 then asLiteralLines content
    else if f.lineFeed then asBasicLines content
    else asBasic content

/-- A number with a fraction, which a whole number shows as a zero. -/
def fractionText (x : Binary64) : String :=
  if x.isWhole then x.text ++ ".0"
  else match x with
    | .nan => "nan"
    | x => x.text

/-- A whole number, if it fits sixty-four bits with a sign. -/
def wholeText? (n : Nat) : Option String :=
  if n < Nat.pow 2 63 then some (toString n) else none

end CallbackFerry.Toml
