import CallbackFerry.Drivers.Event

/-!
# Dice

Chance for a whole run from one seed: every decision about every event is a draw of its own, the
seed scrambled with the number of the draw.  The scrambling spreads the draws over all numbers of
sixty-four bits; no result of the program depends on how.
-/

namespace CallbackFerry.Dice

/-- Scrambles a number of sixty-four bits. -/
def scramble (x : UInt64) : UInt64 :=
  let x := (x ^^^ (x >>> 30)) * 0xBF58476D1CE4E5B9
  let x := (x ^^^ (x >>> 27)) * 0x94D049BB133111EB
  x ^^^ (x >>> 31)

/-- One draw. -/
def draw (seed sequence index : Nat) : Nat :=
  let number := UInt64.ofNat (sequence * 64 + index + 1)
  (scramble (UInt64.ofNat seed + number * 0x9E3779B97F4A7C15)).toNat

/-- The chance behind one event of a run. -/
def chance (seed sequence : Nat) : Chance where
  stray := draw seed sequence 0
  channel := draw seed sequence 1
  kind := draw seed sequence 2
  length := draw seed sequence 3
  byte index := UInt8.ofNat (draw seed sequence (5 + index))
  sequence := draw seed sequence 4

end CallbackFerry.Dice
