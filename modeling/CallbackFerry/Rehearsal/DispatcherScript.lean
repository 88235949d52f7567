import CallbackFerry.Rehearsal.StationScript

/-!
# Rehearsing a dispatcher

The script pushes callbacks under numbers of its own straight into the queue, and nobody counts
them as submitted; dispatcher and host do the rest.
-/

namespace CallbackFerry.Rehearsal

/-- A step of a dispatcher script. -/
inductive DispatcherStep where
  | push (id : Nat) (errand : Errand)
  | hold
  | release
  | await
  | abort
  | stop
  | state
  | queue
  | wait (id : Nat)
  | metrics

/-- What a step of a dispatcher script comes to. -/
inductive DispatcherReport where
  | done
  | pushed (id : Nat)
  | rejected (id : Nat)
  | reached
  | aborted (answer : Bool)
  | dispatched (units : Nat)
  | state (state : DispatcherState)
  | queue (units : Nat) (aborted closed : Bool)
  | result (result : Except Failure Yield)
  | metrics (metrics : Metrics)
  /-- The step has no end. -/
  | stuck

/-- The state of a dispatcher script. -/
structure DispatcherBench where
  /-- The station. -/
  stage : Stage
  /-- The places of the numbers among the submissions, newest first. -/
  keys : List (Nat × Nat) := []

namespace DispatcherBench

/-- Pushes an errand under a number. -/
def push (id : Nat) (errand : Errand) (bench : DispatcherBench) :
    DispatcherReport × DispatcherBench :=
  let (ticket, bridge) := bench.stage.bridge.place id errand.callback
  let accepted := !bridge.dispatcher.queue.closed
  let stage := (bench.stage.withBridge ((bridge.push ticket.key).getD bridge)).settle
  (if accepted then .pushed id else .rejected id,
    { stage := stage, keys := (id, ticket.key) :: bench.keys })

/-- Takes the result of a callback out of its slot. -/
def wait (id : Nat) (bench : DispatcherBench) : DispatcherReport × DispatcherBench :=
  match bench.keys.lookup id with
  | some key =>
    match (bench.stage.bridge.submissions[key]?).bind (·.slot) with
    | some completion =>
      let bridge := bench.stage.bridge.revise key fun submission =>
        { submission with slot := none }
      (.result completion.result, { bench with stage := bench.stage.withBridge bridge })
    | none => (.stuck, bench)
  | none => (.stuck, bench)

/-- One step. -/
def step (bench : DispatcherBench) : DispatcherStep → DispatcherReport × DispatcherBench
  | .push id errand => bench.push id errand
  | .hold => (.done, { bench with stage := { bench.stage with gateOpen := false } })
  | .release => (.done, { bench with stage := { bench.stage with gateOpen := true }.settle })
  | .await => (.reached, bench)
  | .abort =>
    let stage := bench.stage.stop
    (.aborted stage.bridge.dispatcher.queue.aborted, { bench with stage := stage })
  | .stop =>
    let stage := bench.stage.stop
    (.dispatched stage.bridge.dispatcher.dispatched, { bench with stage := stage })
  | .state => (.state bench.stage.bridge.dispatcher.state, bench)
  | .queue =>
    let queue := bench.stage.bridge.dispatcher.queue
    (.queue queue.size queue.aborted queue.closed, bench)
  | .wait id => bench.wait id
  | .metrics => (.metrics bench.stage.bridge.metrics, bench)

/-- All steps, and the state at the end. -/
def play : List DispatcherStep → DispatcherBench → List DispatcherReport × DispatcherBench
  | [], bench => ([], bench)
  | step :: rest, bench =>
    let (report, bench) := bench.step step
    let (reports, bench) := play rest bench
    (report :: reports, bench)

/-- The state when everything has ended. -/
def conclude (bench : DispatcherBench) : DispatcherBench :=
  { bench with stage := bench.stage.conclude }

/-- A dispatcher in front of a backing. -/
def start (name : String) (backing : Backing) : Except Fault DispatcherBench :=
  (Bridge.spawn name none).map fun _ =>
    let fresh : Bridge Errand (Host Memory) Yield := {}
    { stage := Stage.ofBridge (fresh.write [Dispatcher.startLine]) backing Memory.host }

end DispatcherBench
end CallbackFerry.Rehearsal
