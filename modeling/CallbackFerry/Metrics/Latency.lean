import CallbackFerry.Failure
import CallbackFerry.Number.Places

/-!
# Latency of recent callbacks

The window keeps the latencies of the last `Window.capacity` callbacks that ran, in whole
microseconds, oldest first, and forgets those that finished longer ago than `Window.maxAge`.
`Window.stats` summarises them: least, greatest, mean and the latency that ninety-five percent of
them do not exceed.
-/

namespace CallbackFerry

/-- When a callback finished, on the clock of the bridge, and how long before that it was queued. -/
structure Timing where
  /-- When it finished. -/
  finished : Span
  /-- Its latency. -/
  latency : Span
  deriving DecidableEq, Repr, Inhabited

/-- A callback in the window. -/
structure Window.Entry where
  /-- When it finished, on the clock of the bridge. -/
  finished : Span
  /-- Its latency, in microseconds. -/
  micros : Nat
  deriving DecidableEq, Repr, Inhabited

/-- Recent callbacks, oldest first. -/
structure Window where
  /-- The callbacks. -/
  recent : List Window.Entry := []
  deriving Repr, Inhabited

/-- A summary of the latencies in a window. -/
structure LatencyStats where
  /-- The least latency. -/
  min : Nat := 0
  /-- The greatest latency. -/
  max : Nat := 0
  /-- The mean, rounded down. -/
  avg : Nat := 0
  /-- The latency that ninety-five percent do not exceed. -/
  p95 : Nat := 0
  /-- How many latencies there are. -/
  count : Nat := 0
  deriving DecidableEq, Repr, Inhabited

namespace Window

/-- How many latencies a window keeps. -/
def capacity : Nat := 256

/-- How long ago a callback in a window may have finished. -/
def maxAge : Span := ⟨10000000000⟩

/-- Whether a callback finished longer ago than a window looks back. -/
def Entry.isStale (now : Span) (entry : Entry) : Bool :=
  decide (entry.finished.nanos + maxAge.nanos < now.nanos)

/-- In a full window the oldest callback makes room. -/
def makeRoom {α : Type} (entries : List α) : List α :=
  if entries.length = capacity then entries.drop 1 else entries

/-- The window with a callback that has just finished, less those that are too old. -/
def recordAt (window : Window) (now latency : Span) : Window :=
  ⟨(makeRoom window.recent ++ [Entry.mk now latency.micros]).dropWhile (Entry.isStale now)⟩

/-- The position, in ascending order, of the latency that ninety-five percent of `count` latencies
do not exceed: the nearest rank, counted from zero. -/
def rank95 (count : Nat) : Nat :=
  (count * 95 + 99) / 100 - 1

theorem rank95_lt {count : Nat} (some : 0 < count) : rank95 count < count := by
  unfold rank95
  omega

/-- The latencies in the window. -/
def latencies (window : Window) : List Nat :=
  window.recent.map Entry.micros

/-- The summary of latencies that are in ascending order. -/
def statsOf (sorted : List Nat) (some : 0 < sorted.length) : LatencyStats where
  min := sorted.get ⟨0, some⟩
  max := sorted.get ⟨sorted.length - 1, Nat.sub_lt some Nat.one_pos⟩
  avg := sorted.foldr (· + ·) 0 / sorted.length
  p95 := sorted.get ⟨rank95 sorted.length, rank95_lt some⟩
  count := sorted.length

/-- The summary of the latencies in the window; all zeros for an empty window. -/
def stats (window : Window) : LatencyStats :=
  let sorted := window.latencies.mergeSort (· ≤ ·)
  if some : 0 < sorted.length then statsOf sorted some else {}

/-- What is said of latencies whose sum does not fit in 64 bits. -/
def overflowMessage : String := "attempt to add with overflow"

/-- The summary that is taken for a snapshot; it breaks off while it adds the latencies up if
their sum does not fit. -/
def summary (window : Window) : Except Fault LatencyStats :=
  if window.latencies.foldr (· + ·) 0 < Nat.pow 2 64 then .ok window.stats
  else .error (.message overflowMessage)

end Window

/-- A number of microseconds as milliseconds with two places. -/
def millisText (micros : Nat) : String :=
  ((Binary64.ofInt micros).timesQuotient 1 1000).twoPlaces ++ " ms"

namespace LatencyStats

/-- The text of the mean. -/
def avgText (stats : LatencyStats) : String := millisText stats.avg

/-- The text of the latency that ninety-five percent do not exceed. -/
def p95Text (stats : LatencyStats) : String := millisText stats.p95

/-- The text of the greatest latency. -/
def maxText (stats : LatencyStats) : String := millisText stats.max

end LatencyStats
end CallbackFerry
