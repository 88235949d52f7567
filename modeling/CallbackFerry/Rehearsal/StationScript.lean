import CallbackFerry.Rehearsal.Job
import CallbackFerry.Station

/-!
# Rehearsing a bridge

The script plays drivers, and whoever opens and shuts the gate in front of the host.  A call either
ends within its step, or is made by a driver of its own and joined later.  After every step the
station has settled, and the calls that could end have ended.
-/

namespace CallbackFerry.Rehearsal

/-- A station in a rehearsal. -/
abbrev Stage := Station Errand Memory Yield

/-- A call by a driver of its own. -/
structure OpenCall where
  /-- Its place among the submissions. -/
  key : Nat
  /-- What it is for. -/
  errand : Errand
  /-- What it came to, once it has. -/
  result : Option CallResult := none

/-- How far a shutdown in the background has come. -/
inductive Closing where
  | notBegun
  | waiting
  /-- It is over; the counters then. -/
  | done (metrics : Metrics)

/-- The state of a bridge script. -/
structure Rehearsed where
  /-- The station. -/
  stage : Stage
  /-- The calls that have not been joined, in order. -/
  calls : List OpenCall := []
  /-- The shutdown in the background. -/
  closing : Closing := .notBegun

/-- A step of a bridge script. -/
inductive BridgeStep where
  | call (errand : Errand)
  | callApart (errand : Errand)
  | await
  | join
  | hold
  | release
  | dropStalled
  | runStalled (order : List Nat)
  | parallel (threads per : Nat)
  | state
  | queued
  | metrics
  | closeHost
  | shutdown
  | shutdownApart
  | shutdownJoin
  | dropBridge

/-- What a step of a bridge script comes to. -/
inductive BridgeReport where
  | done
  | result (result : CallResult)
  | reached
  | results (results : List CallResult)
  | dropped (tasks : Nat)
  | raised (faults : List (Option Fault))
  | matching (results : Nat)
  | state (state : DispatcherState)
  | queued (units : Nat)
  | metrics (metrics : Metrics)
  /-- What the counters of a shutdown said. -/
  | totals (metrics : Metrics)
  /-- The step has no end. -/
  | stuck

namespace Rehearsed

/-- Lets a call end in some way, if it has not ended and that way is possible now. -/
def endCall (way : Nat → Stage → Option (Except Failure Yield × Stage)) (stage : Stage)
    (call : OpenCall) : OpenCall × Stage :=
  match call.result, way call.key stage with
  | none, some (result, stage) =>
    let (result, lines) := callResult call.errand result
    ({ call with result := some result }, stage.write lines)
  | _, _ => (call, stage)

/-- Lets the calls end in some way, in order. -/
def endCalls (way : Nat → Stage → Option (Except Failure Yield × Stage)) :
    List OpenCall → Stage → List OpenCall × Stage
  | [], stage => ([], stage)
  | call :: rest, stage =>
    let (call, stage) := endCall way stage call
    let (calls, stage) := endCalls way rest stage
    (call :: calls, stage)

/-- Lets the calls that can end do so, and a shutdown that waits for the dispatcher. -/
def tidy (state : Rehearsed) : Rehearsed :=
  let (calls, stage) := endCalls Station.leave? state.calls state.stage
  match state.closing, stage.bridge.dispatcher.phase with
  | .waiting, .retired =>
    let metrics := stage.bridge.metrics
    { stage := stage.write [Bridge.stoppedLine metrics], calls := calls
      closing := .done metrics }
  | closing, _ => { stage := stage, calls := calls, closing := closing }

/-- The state with a station that has settled. -/
def withStage (state : Rehearsed) (stage : Stage) : Rehearsed :=
  { state with stage := stage }.tidy

/-- Makes a call and waits for its end. -/
def call (errand : Errand) (state : Rehearsed) : Option CallResult × Rehearsed :=
  let (result, stage) := state.stage.submit errand.callback
  match result with
  | some result =>
    let (result, lines) := callResult errand result
    (some result, state.withStage (stage.write lines))
  | none => (none, state.withStage stage)

/-- Lets the calls that are still open end or give up. -/
def giveUp (state : Rehearsed) : Rehearsed :=
  let (calls, stage) := endCalls Station.await? state.calls state.stage
  { state with calls := calls, stage := stage }

/-- Runs the tasks at these indexes of a list, in the order of the indexes. -/
def runThese (kept : List Ticket) : List Nat → Stage → List (Option Fault) × Stage
  | [], stage => ([], stage)
  | index :: rest, stage =>
    match (kept[index]?).bind fun ticket => Station.runTask ticket.key stage with
    | some (fault, stage) =>
      let (faults, stage) := runThese kept rest stage
      (fault :: faults, stage)
    | none => runThese kept rest stage

/-- Runs tasks that the host keeps, in the order of their indexes, on a host of their own that
shares nothing but the notes; then drops the others. -/
def runStalled (order : List Nat) (stage : Stage) : List (Option Fault) × Stage :=
  let main := stage.world
  let alone := Memory.host.remember fun memory => { memory with trace := main.memory.trace }
  let apart : Stage := { stage with world := alone }
  let (faults, ran) := runThese stage.bridge.held order apart
  let world : Host Memory :=
    { main with memory := { main.memory with trace := ran.world.memory.trace } }
  let back : Stage := { ran with world := world }
  (faults, back.dropHeld)

/-- Whether a call for the doubling of a number returned its double. -/
def doubles (number : Nat) : Option (Except Failure Yield) → Bool
  | some (.ok (.number result)) => result == 2 * number
  | _ => false

/-- Submits doublings of numbers, one after the other; counts the right results. -/
def double : List Nat → Stage → Nat × Stage
  | [], stage => (0, stage)
  | number :: rest, stage =>
    let (result, stage) := stage.submit (Errand.double number).callback
    let (right, stage) := double rest stage
    (if doubles number result then right + 1 else right, stage)

/-- The numbers that several threads have doubled. -/
def parallelNumbers (threads per : Nat) : List Nat :=
  (List.range threads).flatMap fun thread =>
    (List.range per).map fun index => thread * 1000 + index

/-- One step. -/
def step (state : Rehearsed) : BridgeStep → BridgeReport × Rehearsed
  | .call errand =>
    match state.call errand with
    | (some result, state) => (.result result, state)
    | (none, state) => (.stuck, state)
  | .callApart errand =>
    let (key, stage) := state.stage.enter errand.callback
    let call : OpenCall := { key := key, errand := errand }
    (.reached, { state with calls := state.calls ++ [call] }.withStage stage)
  | .await => (.reached, state)
  | .join =>
    let ended := state.giveUp
    (.results (ended.calls.filterMap (·.result)), { ended with calls := [] })
  | .hold => (.done, { state with stage := { state.stage with gateOpen := false } })
  | .release =>
    let released : Stage := { state.stage with gateOpen := true }
    (.done, state.withStage released.settle)
  | .dropStalled =>
    (.dropped state.stage.bridge.held.length, state.withStage state.stage.dropHeld)
  | .runStalled order =>
    let (faults, stage) := runStalled order state.stage
    (.raised faults, state.withStage stage)
  | .parallel threads per =>
    let (right, stage) := double (parallelNumbers threads per) state.stage
    (.matching right, state.withStage stage)
  | .state => (.state state.stage.bridge.dispatcher.state, state)
  | .queued => (.queued state.stage.bridge.dispatcher.queue.size, state)
  | .metrics => (.metrics state.stage.bridge.metrics, state)
  | .closeHost => (.done, state.withStage state.stage.closeHost)
  | .shutdown =>
    let stage := state.stage.shutdown
    (.metrics stage.bridge.metrics, state.withStage stage)
  | .shutdownApart =>
    let stage := (state.stage.write [state.stage.bridge.shutdownLine]).stop
    let closing : Rehearsed := { state with closing := .waiting }
    (.done, closing.withStage stage)
  | .shutdownJoin =>
    match state.closing with
    | .done metrics => (.totals metrics, state)
    | _ => (.stuck, state)
  | .dropBridge => (.done, state.withStage state.stage.stop)

/-- Whether a step shows what was taken down since the last that did. -/
def showsTrace : BridgeStep → Bool
  | .call _ | .join | .runStalled _ => true
  | _ => false

/-- Takes what was taken down out of the host. -/
def takeTrace (state : Rehearsed) : List TraceEntry × Rehearsed :=
  let memory := state.stage.world.memory
  let world := { state.stage.world with memory := { memory with trace := [] } }
  (memory.trace.reverse, { state with stage := { state.stage with world := world } })

/-- All steps, each with what was taken down if it shows that, and the state at the end. -/
def play : List BridgeStep → Rehearsed →
    List (BridgeReport × List TraceEntry) × Rehearsed
  | [], state => ([], state)
  | step :: rest, state =>
    let (report, state) := state.step step
    let (trace, state) := if showsTrace step then state.takeTrace else ([], state)
    let (reports, state) := play rest state
    ((report, trace) :: reports, state)

/-- The state when everything has ended. -/
def conclude (state : Rehearsed) : Rehearsed :=
  (state.withStage state.stage.conclude).giveUp

end Rehearsed

/-- The deeds done in the host before a start, one after the other; a fault ends them. -/
def prepare : List Deed → Host Memory → Except Fault Unit × Host Memory
  | [], host => (.ok (), host)
  | deed :: rest, host =>
    match deed.carryOut host with
    | (.ok _, host) => prepare rest host
    | (.error fault, host) => (.error fault, host)

/-- The lines that a backing writes at its start. -/
def backingLines : Backing → List LogLine
  | .loop _ => [HostLoop.startLine]
  | _ => []

/-- A station in front of a prepared host, with the lines written so far. -/
def Stage.ofBridge (bridge : Bridge Errand (Host Memory) Yield) (backing : Backing)
    (world : Host Memory) : Stage :=
  let idle : Stage := { bridge := { submissions := #[] }, backing := backing, world := world }
  (idle.write (backingLines backing)).withBridge bridge

/-- How a bridge script begins. -/
inductive Opening where
  /-- The bridge has started. -/
  | ready (state : Rehearsed)
  /-- The bridge has not started; what stands behind it has ended. -/
  | refused (failure : Failure) (stage : Stage)
  /-- The deeds before the start, or the start itself, broke off. -/
  | brokeOff (fault : Fault)

/-- Begins a bridge script.  Only the host's own loop has a world in which deeds can be done before
the start. -/
def Opening.of (settings : BridgeSettings) (backing : Backing) (setup : List Deed) : Opening :=
  let deeds :=
    match backing with
    | .loop _ => setup
    | _ => []
  match prepare deeds Memory.host with
  | (.error fault, _) => .brokeOff fault
  | (.ok (), world) =>
    match Bridge.start settings with
    | .error fault => .brokeOff fault
    | .ok (.error failure) =>
      .refused failure (Stage.ofBridge { submissions := #[] } backing world).closeHost
    | .ok (.ok bridge) => .ready { stage := Stage.ofBridge bridge backing world }

end CallbackFerry.Rehearsal
