/-!
# Spans of time and their text

A span is a whole number of nanoseconds.  Its text uses the largest of seconds, milliseconds,
microseconds and nanoseconds that the span reaches, and writes the rest as a fraction without
trailing zeros: `1.05ms`, `20ms`, `1.000000001s`, `0ns`.
-/

namespace CallbackFerry

/-- A span of time, in nanoseconds. -/
structure Span where
  /-- The whole span. -/
  nanos : Nat
  deriving DecidableEq, Repr, Inhabited

namespace Span

/-- A span of whole milliseconds. -/
def ofMillis (n : Nat) : Span := ⟨n * 1000000⟩

/-- A span of whole microseconds. -/
def ofMicros (n : Nat) : Span := ⟨n * 1000⟩

/-- Seconds and nanoseconds together; the nanoseconds may exceed a second. -/
def ofParts (secs nanos : Nat) : Span := ⟨secs * 1000000000 + nanos⟩

/-- The most whole seconds a span can hold. -/
def maxSeconds : Nat := Nat.pow 2 64 - 1

/-- Whether the whole seconds fit in 64 bits. -/
def fits (span : Span) : Bool :=
  decide (span.nanos / 1000000000 ≤ maxSeconds)

/-- What is said of a span that does not fit. -/
def overflowMessage : String := "overflow in Duration::new"

/-- Whole microseconds, kept to 64 bits. -/
def micros (span : Span) : Nat :=
  span.nanos / 1000 % Nat.pow 2 64

/-- The digits of `part / unit` after the point, without trailing zeros; `unit` is a power of
ten that has `places` zeros. -/
def fraction (part places : Nat) : String :=
  let digits := (Nat.toDigits 10 part)
  let padded := List.replicate (places - digits.length) '0' ++ digits
  String.ofList (padded.reverse.dropWhile (· == '0')).reverse

/-- A whole number and a fraction, with no point if the fraction is zero. -/
def withUnit (whole part places : Nat) (unit : String) : String :=
  if part = 0 then toString whole ++ unit
  else toString whole ++ "." ++ fraction part places ++ unit

/-- The text of a span, in the largest unit it reaches. -/
def text (span : Span) : String :=
  let n := span.nanos
  if 1000000000 ≤ n then withUnit (n / 1000000000) (n % 1000000000) 9 "s"
  else if 1000000 ≤ n then withUnit (n / 1000000) (n % 1000000) 6 "ms"
  else if 1000 ≤ n then withUnit (n / 1000) (n % 1000) 3 "µs"
  else toString n ++ "ns"

end Span
end CallbackFerry
