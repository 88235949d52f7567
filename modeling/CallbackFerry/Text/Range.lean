/-!
# Ranges of characters

A property of characters is given by the ranges of code points that have it, each by its first and
its last.
-/

namespace CallbackFerry

/-- Whether a character lies in one of the ranges. -/
def isWithin (ranges : List (Nat × Nat)) (c : Char) : Bool :=
  ranges.any fun (first, last) => first ≤ c.toNat && c.toNat ≤ last

end CallbackFerry
