import CallbackFerry.Metrics.Counters

/-!
# Rehearsing the counters

Counters are driven by hand and looked at in between.
-/

namespace CallbackFerry.Rehearsal

/-- A step of a counter script. -/
inductive MetricsStep where
  | submitted (times : Nat)
  | rejected (times : Nat)
  | abandoned (times : Nat)
  | timedOut (times : Nat)
  | misrouted (times : Nat)
  /-- Callbacks that ran, with these latencies. -/
  | executed (latencies : List Span) (success : Bool)
  | snapshot

/-- What a step of a counter script comes to. -/
inductive MetricsReport where
  | done
  | snapshot (metrics : Metrics)
  /-- The step broke off. -/
  | brokeOff (fault : Fault)

/-- The same change several times. -/
def repeated {α : Type} (times : Nat) (change : α → α) (value : α) : α :=
  (List.range times).foldl (fun value _ => change value) value

/-- One step.  A latency that does not fit breaks it off, and so does a sum of latencies.  All steps
take place in one moment, so no latency is too old. -/
def MetricsStep.apply (step : MetricsStep) (metrics : Metrics) : MetricsReport × Metrics :=
  match step with
  | .submitted times => (.done, repeated times Metrics.recordSubmitted metrics)
  | .rejected times => (.done, repeated times Metrics.recordRejected metrics)
  | .abandoned times => (.done, repeated times Metrics.recordAbandoned metrics)
  | .timedOut times => (.done, repeated times Metrics.recordTimeout metrics)
  | .misrouted times => (.done, metrics.recordRoutingErrors times)
  | .executed latencies success =>
    if latencies.all Span.fits then
      (.done,
        latencies.foldl
          (fun metrics latency => metrics.recordExecutedAt ⟨0⟩ latency success) metrics)
    else (.brokeOff (.message Span.overflowMessage), metrics)
  | .snapshot =>
    match metrics.latencies.summary with
    | .ok _ => (.snapshot metrics, metrics)
    | .error fault => (.brokeOff fault, metrics)

/-- All steps in order. -/
def playMetrics : List MetricsStep → Metrics → List MetricsReport
  | [], _ => []
  | step :: rest, metrics =>
    let (report, metrics) := step.apply metrics
    report :: playMetrics rest metrics

end CallbackFerry.Rehearsal
