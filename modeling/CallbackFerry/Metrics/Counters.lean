import CallbackFerry.Metrics.Latency

/-!
# What one bridge has counted

Driver threads count what they submit and how their waiting ended; the host counts what it ran.
Each way of counting is one function, so that every party's effect on the counters is one equation.
-/

namespace CallbackFerry

/-- The counters of one bridge. -/
structure Metrics where
  /-- Attempts to submit, rejected ones included. -/
  submitted : Nat := 0
  /-- Callbacks that ran and returned. -/
  completed : Nat := 0
  /-- Callbacks that ran and broke off. -/
  faulted : Nat := 0
  /-- Submissions refused because the bridge was shut down. -/
  rejected : Nat := 0
  /-- Callbacks that the host discarded without running. -/
  abandoned : Nat := 0
  /-- Waits that ended without a result in time. -/
  timedOut : Nat := 0
  /-- Events for channels without a handler. -/
  routingErrors : Nat := 0
  /-- The latencies of the callbacks that ran. -/
  latencies : Window := {}
  deriving Repr, Inhabited

namespace Metrics

/-- Counts an attempt to submit. -/
def recordSubmitted (m : Metrics) : Metrics := { m with submitted := m.submitted + 1 }

/-- Counts a callback that ran and has just finished, with the time since it was queued. -/
def recordExecutedAt (m : Metrics) (now latency : Span) (success : Bool) : Metrics :=
  let counted :=
    if success then { m with completed := m.completed + 1 }
    else { m with faulted := m.faulted + 1 }
  { counted with latencies := counted.latencies.recordAt now latency }

/-- Counts a refused submission. -/
def recordRejected (m : Metrics) : Metrics := { m with rejected := m.rejected + 1 }

/-- Counts a discarded callback. -/
def recordAbandoned (m : Metrics) : Metrics := { m with abandoned := m.abandoned + 1 }

/-- Counts a wait that ended without a result. -/
def recordTimeout (m : Metrics) : Metrics := { m with timedOut := m.timedOut + 1 }

/-- Counts events for channels without a handler. -/
def recordRoutingErrors (m : Metrics) (events : Nat) : Metrics :=
  { m with routingErrors := m.routingErrors + events }

end Metrics
end CallbackFerry
