import CallbackFerry.Text.Reader

/-!
# Blanks, comments and line ends

What stands between the parts of a document and says nothing.  A comment reaches to the end of its
line and holds no control characters but tabs.
-/

namespace CallbackFerry.Toml

/-- Spaces and tabs. -/
def isGap (c : Char) : Bool := c == ' ' || c == '\t'

/-- The characters beyond ASCII, which texts, comments and quoted keys may hold. -/
def beyondAscii (c : Char) : Bool := 0x80 ≤ c.toNat

/-- The characters a comment may hold: all but control characters, the tab excepted. -/
def isCommentChar (c : Char) : Bool :=
  c == '\t' || (0x20 ≤ c.toNat && c.toNat ≤ 0x7E) || beyondAscii c

/-- Spaces and tabs, possibly none. -/
def gap : Reader Unit := do
  let _ ← Reader.span isGap

/-- The end of a line. -/
def newline : Reader Unit :=
  Reader.exactly ['\n'] <|> Reader.exactly ['\r', '\n']

/-- A comment, up to the end of its line. -/
def comment : Reader Unit := do
  Reader.exactly ['#']
  let _ ← Reader.span isCommentChar

/-- What may stand behind a statement: a comment, then the end of the line or of the text. -/
def lineEnd : Reader Unit := do
  gap
  let _ ← Reader.maybe comment
  newline <|> Reader.atEnd

/-- What may stand between the items of a list: blanks, comments and line ends. -/
def wideGap : Reader Unit := do
  let _ ← Reader.many ((do let _ ← Reader.spanSome isGap) <|> newline <|> comment)

end CallbackFerry.Toml
