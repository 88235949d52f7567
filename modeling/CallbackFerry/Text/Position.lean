import CallbackFerry.Failure
import CallbackFerry.Text.Listed

/-!
# Byte positions in a text

A text can be cut at byte positions, counted in UTF-8.  A position inside a character cannot be cut
at: then `cut` breaks off with a message that names the position and the character.
-/

namespace CallbackFerry

/-- The number of bytes of some characters. -/
def byteLength (text : List Char) : Nat :=
  text.foldr (fun c sum => c.utf8Size + sum) 0

/-- The character that a position lies inside, and the position where it begins; `begin` is the
position of the first of these characters. -/
def around? (position : Nat) : (begin : Nat) → List Char → Option (Char × Nat)
  | _, [] => none
  | begin, c :: rest =>
    if position ≤ begin then none
    else if position < begin + c.utf8Size then some (c, begin)
    else around? position (begin + c.utf8Size) rest

/-- The characters that begin from one position on and before another. -/
def between (first last : Nat) : (begin : Nat) → List Char → List Char
  | _, [] => []
  | begin, c :: rest =>
    if last ≤ begin then []
    else if first ≤ begin then c :: between first last (begin + c.utf8Size) rest
    else between first last (begin + c.utf8Size) rest

/-- The fault of a cut at a position inside a character; `which` end it was is told first. -/
def brokenCut (which : String) (position : Nat) (c : Char) (begin : Nat) : Fault :=
  .message (which ++ " byte index " ++ toString position
    ++ " is not a char boundary; it is inside " ++ listedChar c ++ " (bytes " ++ toString begin
    ++ ".." ++ toString (begin + c.utf8Size) ++ " of string)")

/-- The part of a text from one position to another. -/
def cut (first last : Nat) (text : List Char) : Except Fault (List Char) :=
  match around? first 0 text, around? last 0 text with
  | some (c, begin), _ => .error (brokenCut "start" first c begin)
  | none, some (c, begin) => .error (brokenCut "end" last c begin)
  | none, none => .ok (between first last 0 text)

end CallbackFerry
