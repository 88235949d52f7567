import CallbackFerry.Text.Blank
import CallbackFerry.Text.Hex
import CallbackFerry.Text.Reader

/-!
# Atoms and bracketed sets of patterns

The smallest parts of a pattern are its `Atom`s: characters, escapes and marks.  A set in square
brackets has characters, ranges, named classes and other sets as members; operators join what
stands on their two sides.

No tables of character properties are at hand.  So in Unicode mode nothing can be used that needs
one: classes of letters, word boundaries, and characters whose case does not count.  In byte mode
nothing can be used that might match a part of a character: what is negated, the dot, and bytes
beyond ASCII.
-/

namespace CallbackFerry.LogFilter

/-- How the parts of a pattern are understood. -/
structure Modes where
  /-- Whether case does not count. -/
  foldsCase : Bool := false
  /-- Whether characters are matched, not bytes. -/
  unicode : Bool := true
  /-- Whether blanks and comments are passed over. -/
  spacious : Bool := false
  deriving DecidableEq, Repr

/-- The modes after some flags: letters, and a minus sign in front of those to be switched off. -/
def Modes.after (flags : List Char) (modes : Modes) : Modes :=
  (flags.foldl (fun (modes, on) flag =>
    match flag with
    | '-' => (modes, false)
    | 'i' => ({ modes with foldsCase := on }, on)
    | 'u' => ({ modes with unicode := on }, on)
    | 'x' => ({ modes with spacious := on }, on)
    | _ => (modes, on)) (modes, true)).1

/-! ### Blanks -/

/-- What remains behind blanks and comments; a comment ends with its line. -/
def skipBlanks : (inComment : Bool) → List Char → List Char
  | _, [] => []
  | true, c :: rest => skipBlanks (c != '\n') rest
  | false, c :: rest =>
    if isBlankChar c then skipBlanks false rest
    else if c == '#' then skipBlanks true rest
    else c :: rest

/-- Passes over blanks and comments if the modes say so. -/
def blanks (modes : Modes) : Reader Unit := fun input =>
  some ((), if modes.spacious then skipBlanks false input else input)

/-- Takes one character that passes a test, and the blanks behind it. -/
def mark (modes : Modes) (passes : Char → Bool) : Reader Char := do
  let c ← Reader.char passes
  blanks modes
  return c

/-- Fails where nothing remains. -/
def notAtEnd : Reader Unit := fun input =>
  if input.isEmpty then none else some ((), input)

/-! ### Atoms -/

/-- A smallest part of a pattern. -/
inductive Atom where
  /-- A character, and whether it was written as a byte beyond ASCII. -/
  | literal (c : Char) (asByte : Bool)
  /-- Any character. -/
  | dot
  /-- The beginning or the end of a line or of the text. -/
  | anchor
  /-- The boundary of a word, or its absence. -/
  | boundary
  /-- The digits, the blanks or the characters of words, or all others. -/
  | letters (negated : Bool)
  deriving DecidableEq, Repr

/-- Takes a code point of so many hexadecimal digits. -/
def codePoint (modes : Modes) (digits : Nat) : Reader Char := do
  blanks modes
  let number ← (List.range digits).foldlM (fun number _ => do
    let digit ← mark modes fun c => (Hex.value? c).isSome
    return number * 16 + (Hex.value? digit).getD 0) 0
  Reader.require (Nat.isValidChar number)
  return Char.ofNat number

/-- Takes an escape, behind its backslash.  Signs of ASCII stand for themselves. -/
def escape (modes : Modes) : Reader Atom := do
  match ← Reader.char fun _ => true with
  | 'x' =>
    let c ← codePoint modes 2
    return .literal c (decide (0x80 ≤ c.toNat))
  | 'u' => return .literal (← codePoint modes 4) false
  | 'U' => return .literal (← codePoint modes 8) false
  | 'd' | 's' | 'w' => return .letters false
  | 'D' | 'S' | 'W' => return .letters true
  | 'a' => return .literal '\x07' false
  | 'f' => return .literal '\x0c' false
  | 'n' => return .literal '\n' false
  | 'r' => return .literal '\r' false
  | 't' => return .literal '\t' false
  | 'v' => return .literal '\x0b' false
  | 'A' | 'z' => return .anchor
  | 'b' | 'B' | '<' | '>' => return .boundary
  | c =>
    Reader.require (decide (c.toNat < 0x80) && !c.isAlphanum)
    return .literal c false

/-- Whether an atom can be used outside brackets. -/
def Atom.isUsable (modes : Modes) : Atom → Bool
  | .literal _ asByte => if modes.unicode then !modes.foldsCase else !asByte
  | .dot => modes.unicode
  | .anchor => true
  | .boundary => !modes.unicode
  | .letters negated => !modes.unicode && !negated

/-- Whether a character can be used inside brackets. -/
def isUsableInSet (modes : Modes) (c : Char) : Bool :=
  if modes.unicode then !modes.foldsCase else decide (c.toNat < 0x80)

/-- Whether an atom can be a member of a set. -/
def Atom.isMember (modes : Modes) : Atom → Bool
  | .literal c _ => isUsableInSet modes c
  | .letters negated => !modes.unicode && !negated
  | _ => false

/-- Whether two atoms can be the ends of a range. -/
def Atom.isRange (modes : Modes) : Atom → Atom → Bool
  | .literal first _, .literal last _ =>
    decide (first ≤ last) && isUsableInSet modes first && isUsableInSet modes last
  | _, _ => false

/-! ### Members of sets -/

/-- Takes an atom inside brackets, where only the backslash is a mark. -/
def setAtom (modes : Modes) : Reader Atom := do
  let c ← Reader.char fun _ => true
  if c = '\\' then escape modes else return .literal c false

/-- The character that a dash is taken to stand before.  Blanks and the beginning of a comment are
passed over if the modes say so, yet the text of the comment is not. -/
def beyondDash (modes : Modes) (rest : List Char) : Option Char :=
  if modes.spacious then
    match rest.dropWhile isBlankChar with
    | '#' :: comment => (comment.dropWhile isBlankChar).head?
    | rest => rest.head?
  else rest.head?

/-- Whether a range goes on here: a dash before the end of the set or before another dash is none
of a range. -/
def isRangeDash (modes : Modes) : List Char → Bool
  | '-' :: rest => !(beyondDash modes rest == some ']' || beyondDash modes rest == some '-')
  | _ => false

/-- Takes a character, a class of letters or a range. -/
def member (modes : Modes) : Reader Unit := do
  let first ← setAtom modes
  blanks modes
  notAtEnd
  if isRangeDash modes (← get) then
    let _ ← mark modes (· == '-')
    let last ← setAtom modes
    Reader.require (first.isRange modes last)
  else Reader.require (first.isMember modes)

/-- The named classes. -/
def classNames : List String :=
  ["alnum", "alpha", "ascii", "blank", "cntrl", "digit", "graph", "lower", "print", "punct",
    "space", "upper", "word", "xdigit"]

/-- Takes a named class, behind its bracket; returns whether it is negated. -/
def namedClass : Reader Bool := do
  Reader.exactly [':']
  let negated ← Reader.maybe (Reader.exactly ['^'])
  let name ← Reader.span (· != ':')
  Reader.exactly [':', ']']
  Reader.require (classNames.contains (String.ofList name))
  return negated.isSome

/-! ### Sets -/

/-- How high parts of these heights are together: one part stands alone, several share a level. -/
def together : (heights : List Nat) → Nat
  | [] => 0
  | [height] => height
  | heights => heights.foldl max 0 + 1

/-- How high something is if earlier parts may stand beside it. -/
def beside (earlier : Option Nat) (height : Nat) : Nat :=
  match earlier with
  | some other => max other height + 1
  | none => height

/-- A set whose end has not been seen. -/
structure OpenSet where
  /-- Whether the set is all but its members. -/
  negated : Bool
  /-- The heights of the members since the last operator. -/
  members : List Nat := []
  /-- The height of what stands before the last operator. -/
  before : Option Nat := none
  deriving Repr

/-- How high the set is so far. -/
def OpenSet.height (set : OpenSet) : Nat :=
  beside set.before (together set.members)

/-- Adds a member. -/
def OpenSet.add (height : Nat) (set : OpenSet) : OpenSet :=
  { set with members := height :: set.members }

/-- Begins the other side of an operator. -/
def OpenSet.divide (set : OpenSet) : OpenSet :=
  { set with members := [], before := some set.height }

/-- Takes the beginning of a set, behind its bracket.  Dashes that come first are members, and so is
a closing bracket that comes first. -/
def openingOfSet (modes : Modes) : Reader OpenSet := do
  blanks modes
  let negated ← Reader.maybe (mark modes (· == '^'))
  let dashes ← Reader.many (mark modes (· == '-'))
  let bracket ←
    if dashes.isEmpty then Reader.maybe (mark modes (· == ']')) else pure none
  notAtEnd
  let members := dashes ++ bracket.toList
  Reader.require (members.all (isUsableInSet modes))
  return { negated := negated.isSome, members := members.map fun _ => 0 }

/-- How far a set has been read. -/
inductive SetProgress where
  /-- The set inside is open, and so are those around it, from the inside. -/
  | inside (set : OpenSet) (around : List OpenSet)
  /-- All sets are closed; the height of the outermost. -/
  | closed (height : Nat)

/-- Takes the next part of a set. -/
def setPart (modes : Modes) (set : OpenSet) (around : List OpenSet) : Reader SetProgress
  | '[' :: rest =>
    match namedClass rest with
    | some (negated, rest) =>
      if if modes.unicode then !modes.foldsCase else !negated then
        some (.inside (set.add 0) around, rest)
      else none
    | none =>
      (openingOfSet modes rest).map fun (inner, rest) => (.inside inner (set :: around), rest)
  | ']' :: rest =>
    if set.negated && !modes.unicode then none
    else
      match around with
      | outer :: around => some (.inside (outer.add (set.height + 1)) around, rest)
      | [] => some (.closed (set.height + 1), rest)
  | '&' :: '&' :: rest | '-' :: '-' :: rest | '~' :: '~' :: rest =>
    some (.inside set.divide around, rest)
  | input => (member modes input).map fun (_, rest) => (.inside (set.add 0) around, rest)

/-- Takes the rest of a set; returns its height. -/
def restOfSet (modes : Modes) (set : OpenSet) (around : List OpenSet) (input : List Char) :
    Option (Nat × List Char) :=
  let start := if modes.spacious then skipBlanks false input else input
  match setPart modes set around start with
  | some (.inside set around, rest) =>
    if rest.length < input.length then restOfSet modes set around rest else none
  | some (.closed height, rest) => some (height, rest)
  | none => none
termination_by input.length

/-- Takes a set, behind its bracket; returns its height. -/
def bracketed (modes : Modes) : Reader Nat := do
  let set ← openingOfSet modes
  fun input => restOfSet modes set [] input

end CallbackFerry.LogFilter
