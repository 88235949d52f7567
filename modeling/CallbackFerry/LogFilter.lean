import CallbackFerry.LogFilter.FieldValue
import CallbackFerry.Text.Position

/-!
# Log filters

What the log shows is set by a filter: directives with commas between them.  A directive is a
level, a target, a target with a level behind an equals sign, or a target with a span in square
brackets, which may name fields in curly ones.  Here it only matters whether a text is a filter;
`LogFilter.check` decides it by a small machine, `LogFilter.Scan`.
-/

namespace CallbackFerry.LogFilter

/-- Why a text is not taken for a filter. -/
inductive Refusal where
  /-- It is none. -/
  | malformed
  /-- Reading it broke off. -/
  | brokeOff (fault : Fault)
  deriving DecidableEq, Repr

/-! ### Characters and levels -/

/-- Whether a directive may begin with a character, a bracket excepted. -/
def startsTarget (c : Char) : Bool :=
  c == '-' || c == ':' || c == '_' || isAlphanumeric c

/-- The names of levels, the empty one included. -/
def levelNames : List String :=
  ["", "error", "warn", "info", "debug", "trace", "off"]

/-- Whether a text is the number of a level, zero to five, with a plus sign or zeros before it. -/
def isLevelNumber (text : List Char) : Bool :=
  let digits :=
    match text with
    | '+' :: rest => rest
    | rest => rest
  areDigits digits && digits.foldl (fun n c => n * 10 + (c.toNat - '0'.toNat)) 0 ≤ 5

/-- Whether a text is a level, in any case of letters. -/
def isLevel (text : List Char) : Bool :=
  isLevelNumber text || levelNames.contains (String.ofList (text.map Char.toLower))

/-! ### Directives -/

/-- What has been seen of a directive. -/
inductive Scan where
  /-- Nothing. -/
  | start
  /-- The beginning of a level or a target. -/
  | target
  /-- The beginning of a span, whose name begins at a position. -/
  | span (begin : Nat)
  /-- The beginning of the fields, which begin at a position. -/
  | field (begin : Nat)
  /-- All fields of a span. -/
  | fields
  /-- A closed span. -/
  | closed
  /-- An equals sign; the level begins at a position. -/
  | level (begin : Nat)
  deriving DecidableEq, Repr

/-- A part of a directive between two positions. -/
def part (directive : List Char) (first last : Nat) : Except Refusal (List Char) :=
  (cut first last directive).mapError .brokeOff

/-- One more character, which begins at a position.  A part that ends with it is cut out. -/
def Scan.next (directive : List Char) (state : Scan) (position : Nat) (c : Char) :
    Except Refusal Scan :=
  match state, c with
  | .start, '[' => .ok (.span (position + 1))
  | .start, c => if startsTarget c then .ok .target else .error .malformed
  | .target, '=' => do
    let _ ← part directive 0 position
    return .level (position + 1)
  | .target, '[' => do
    let _ ← part directive 0 position
    return .span (position + 1)
  | .target, _ => .ok .target
  | .span begin, ']' => do
    let _ ← part directive begin position
    return .closed
  | .span begin, '\x7b' => do
    let _ ← part directive begin position
    return .field (position + 1)
  | .span begin, _ => .ok (.span begin)
  | .field begin, '\x7d' => do
    let text ← part directive begin position
    if isField text then return .fields else .error .malformed
  | .field begin, _ => .ok (.field begin)
  | .fields, ']' => .ok .closed
  | .fields, _ => .error .malformed
  | .closed, '=' => .ok (.level (position + 1))
  | .closed, _ => .error .malformed
  | .level begin, _ => .ok (.level begin)

/-- Reads characters from a position on. -/
def Scan.run (directive : List Char) :
    Scan → (position : Nat) → List Char → Except Refusal Scan
  | state, _, [] => .ok state
  | state, position, c :: rest => do
    let state ← state.next directive position c
    state.run directive (position + c.utf8Size) rest

/-- A directive without the blanks around it. -/
def trimmed (directive : List Char) : List Char :=
  ((directive.dropWhile isBlankChar).reverse.dropWhile isBlankChar).reverse

/-- Whether a text is a directive.  Blanks around it are passed over, but its parts are taken from
the text with its blanks, by their positions in the text without them. -/
def checkDirective (directive : List Char) : Except Refusal Unit := do
  match ← Scan.start.run directive 0 (trimmed directive) with
  | .target | .closed => return ()
  | .level begin =>
    let level ← part directive begin (byteLength directive)
    if isLevel level then return () else .error .malformed
  | _ => .error .malformed

/-- Whether a text is a filter; the first directive that is none decides.  Empty directives say
nothing. -/
def check (filter : String) : Except Refusal Unit :=
  (filter.splitOn ",").forM fun directive =>
    if directive.isEmpty then .ok () else checkDirective directive.toList

end CallbackFerry.LogFilter
