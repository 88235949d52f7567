/-!
# Readers of text

A `Reader` takes something off the front of the remaining characters or fails.  The characters are
a list, so that reading is plain recursion; a reader that is repeated must take at least one
character each time, and `Reader.many` stops as soon as it does not.
-/

namespace CallbackFerry

/-- Takes a value off the front of the remaining characters, or fails. -/
abbrev Reader := StateT (List Char) Option

namespace Reader

/-- Takes one character that passes a test. -/
def char (passes : Char → Bool) : Reader Char
  | c :: rest => if passes c then some (c, rest) else none
  | [] => none

/-- Takes the given characters. -/
def exactly : List Char → Reader Unit
  | [], rest => some ((), rest)
  | c :: more, d :: rest => if c = d then exactly more rest else none
  | _ :: _, [] => none

/-- Takes the characters up to the first that fails a test, possibly none. -/
def span (passes : Char → Bool) : Reader (List Char) := fun input =>
  some (input.takeWhile passes, input.dropWhile passes)

/-- Takes at least one character, up to the first that fails a test. -/
def spanSome (passes : Char → Bool) : Reader (List Char) := do
  let first ← char passes
  let more ← span passes
  return first :: more

/-- Succeeds where nothing remains. -/
def atEnd : Reader Unit
  | [] => some ((), [])
  | _ :: _ => none

/-- What the reader takes, if it takes anything. -/
def maybe {α : Type} (reader : Reader α) : Reader (Option α) :=
  (some <$> reader) <|> pure none

/-- Fails unless the condition holds. -/
def require (condition : Bool) : Reader Unit := fun input =>
  if condition then some ((), input) else none

/-- The values that a reader takes one after the other, and what remains then. -/
def manyFrom {α : Type} (reader : Reader α) (input : List Char) : List α × List Char :=
  match reader input with
  | none => ([], input)
  | some (value, rest) =>
    if rest.length < input.length then
      let (values, rest) := manyFrom reader rest
      (value :: values, rest)
    else ([], input)
termination_by input.length

/-- Takes values as long as there are any. -/
def many {α : Type} (reader : Reader α) : Reader (List α) := fun input =>
  some (manyFrom reader input)

/-- Takes at least one value, the others each behind a separator. -/
def separated {α : Type} (separator : Reader Unit) (reader : Reader α) : Reader (List α) := do
  let first ← reader
  let others ← many (do separator; reader)
  return first :: others

end Reader

end CallbackFerry
