import CallbackFerry.LogFilter.PatternSet
import CallbackFerry.Text.Numeric

/-!
# Patterns

The value of a field in a log filter may be a pattern: a regular expression.  Here it only matters
whether a text is a pattern that can be used, and `Pattern.isUsable` decides it in one walk from
left to right.  The walk keeps the groups that are open, the modes, which last to the end of their
group, and how high the parts are built upon each other, for which there is a limit.

A pattern holds no counts in curly brackets: a closing one ends the field, so an opening one is
never closed.
-/

namespace CallbackFerry.LogFilter.Pattern

/-- The greatest height of a pattern. -/
def heightLimit : Nat := 250

/-! ### Beginnings of groups -/

/-- The flags that a group can set. -/
def flagLetters : List Char := ['i', 'm', 's', 'U', 'u', 'R', 'x', '-']

/-- Whether characters are flags: none comes twice, and a minus sign has some behind it. -/
def areFlags (flags : List Char) : Bool :=
  flags.all flagLetters.contains && decide flags.Nodup && flags.getLast? != some '-'

/-- Whether characters are the name of a group. -/
def isGroupName : List Char → Bool
  | [] => false
  | first :: rest =>
    (first == '_' || isAlphabetic first)
      && rest.all fun c => c == '_' || c == '.' || c == '[' || c == ']' || isAlphanumeric c

/-- What an opening bracket begins. -/
inductive Opening where
  /-- A group that has such modes inside, and perhaps a name. -/
  | group (inside : Modes) (name : Option (List Char))
  /-- No group: from here on the modes are these. -/
  | flags (modes : Modes)

/-- Takes the name of a group and the angle bracket behind it. -/
def groupName : Reader (List Char) := do
  let name ← Reader.span (· != '>')
  Reader.exactly ['>']
  Reader.require (isGroupName name)
  return name

/-- Takes flags and what they are for: the group that begins here, or the rest of the group
around. -/
def flagged (modes : Modes) : Reader Opening := do
  let flags ← Reader.span fun c => c != ':' && c != ')'
  Reader.require (areFlags flags)
  let ending ← Reader.char fun _ => true
  if ending = ':' then return .group (modes.after flags) none
  else
    Reader.require (!flags.isEmpty)
    return .flags (modes.after flags)

/-- Takes the beginning of a group, behind its bracket.  Groups that only look around cannot be
used. -/
def opening (modes : Modes) : Reader Opening := do
  blanks modes
  match ← get with
  | '?' :: '=' :: _ | '?' :: '!' :: _ | '?' :: '<' :: '=' :: _ | '?' :: '<' :: '!' :: _ =>
    Reader.require false
    return .group modes none
  | '?' :: 'P' :: '<' :: rest | '?' :: '<' :: rest =>
    set rest
    return .group modes (some (← groupName))
  | '?' :: rest =>
    set rest
    flagged modes
  | _ => return .group modes none

/-! ### The walk -/

/-- The parts of a group since its last bar, and those before. -/
structure Course where
  /-- The heights of the parts, the last first. -/
  parts : List Nat := []
  /-- Whether the last part can be repeated. -/
  repeatable : Bool := false
  /-- The height of the choices before the last bar. -/
  choices : Option Nat := none
  deriving Repr

namespace Course

/-- How high the course is. -/
def height (course : Course) : Nat :=
  beside course.choices (together course.parts)

/-- Adds a part. -/
def add (height : Nat) (course : Course) : Course :=
  { course with parts := height :: course.parts, repeatable := true }

/-- Adds something that says nothing by itself and cannot be repeated. -/
def addFlags (course : Course) : Course :=
  { course with parts := 0 :: course.parts, repeatable := false }

/-- Begins another choice. -/
def divide (course : Course) : Course :=
  { choices := some (max (course.choices.getD 0) (together course.parts)) }

/-- Repeats the last part. -/
def repeatLast? (course : Course) : Option Course :=
  match course.parts, course.repeatable with
  | last :: others, true => some { course with parts := (last + 1) :: others }
  | _, _ => none

end Course

/-- How far a pattern has been read. -/
structure Walk where
  /-- The modes. -/
  modes : Modes := {}
  /-- The group inside. -/
  course : Course := {}
  /-- The groups around it, from the inside, each with the modes it had before. -/
  around : List (Modes × Course) := []
  /-- The names of groups so far. -/
  names : List (List Char) := []

namespace Walk

/-- Adds a part to the group inside. -/
def add (height : Nat) (walk : Walk) : Walk :=
  { walk with course := walk.course.add height }

/-- Adds an atom, if it can be used. -/
def addAtom? (atom : Atom) (walk : Walk) : Option Walk :=
  if atom.isUsable walk.modes then some (walk.add 0) else none

/-- Follows an opening bracket; a name stands for one group only. -/
def begin? (opening : Opening) (walk : Walk) : Option Walk :=
  match opening with
  | .flags modes => some { walk with modes := modes, course := walk.course.addFlags }
  | .group inside name =>
    if name.any walk.names.contains then none
    else
      some { modes := inside, names := name.toList ++ walk.names
             around := (walk.modes, walk.course) :: walk.around }

/-- Follows a closing bracket. -/
def end? (walk : Walk) : Option Walk :=
  match walk.around with
  | (modes, course) :: around =>
    some { walk with
      modes := modes, around := around, course := course.add (walk.course.height + 1) }
  | [] => none

/-- Takes the next part of a pattern. -/
def step (walk : Walk) : List Char → Option (Walk × List Char)
  | '(' :: rest => do
    let (opening, rest) ← opening walk.modes rest
    return (← walk.begin? opening, rest)
  | ')' :: rest => do return (← walk.end?, rest)
  | '|' :: rest => some ({ walk with course := walk.course.divide }, rest)
  | '[' :: rest => do
    let (height, rest) ← bracketed walk.modes rest
    return (walk.add height, rest)
  | '\x7b' :: _ => none
  | '\\' :: rest => do
    let (atom, rest) ← escape walk.modes rest
    return (← walk.addAtom? atom, rest)
  | c :: rest =>
    if c == '?' || c == '*' || c == '+' then do
      let course ← walk.course.repeatLast?
      let rest :=
        match rest with
        | '?' :: rest => rest
        | rest => rest
      return ({ walk with course := course }, rest)
    else do
      let atom : Atom :=
        match c with
        | '.' => .dot
        | '^' | '$' => .anchor
        | c => .literal c false
      return (← walk.addAtom? atom, rest)
  | [] => none

/-- Takes all of a pattern. -/
def run (walk : Walk) (input : List Char) : Option Walk :=
  match if walk.modes.spacious then skipBlanks false input else input with
  | [] => some walk
  | c :: rest =>
    match walk.step (c :: rest) with
    | some (walk, rest) => if rest.length < input.length then walk.run rest else none
    | none => none
termination_by input.length

end Walk

/-- Whether a text is a pattern that can be used. -/
def isUsable (text : List Char) : Bool :=
  match ({} : Walk).run text with
  | some walk => walk.around.isEmpty && decide (walk.course.height ≤ heightLimit)
  | none => false

end CallbackFerry.LogFilter.Pattern
