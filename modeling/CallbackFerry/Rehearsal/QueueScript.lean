import CallbackFerry.Queue.Monitor
import CallbackFerry.Rehearsal.Job

/-!
# Rehearsing a queue by hand

Here the script itself is the dispatcher: it pushes callbacks under numbers of its own, takes them
out of the queue, and runs, executes or drops what it has taken.  The result of each callback waits
in a handoff under the callback's number.
-/

namespace CallbackFerry.Rehearsal

/-- A callback in the hands of a queue script. -/
structure Loose where
  /-- Its number. -/
  id : Nat
  /-- Where its handoff is. -/
  key : Nat
  /-- What it runs. -/
  callback : Callback Errand (Host Memory) Yield

/-- What a thread that blocks on the queue is woken by. -/
inductive Alarm where
  | push (id : Nat) (errand : Errand)
  | abort

/-- A step of a queue script. -/
inductive QueueStep where
  | push (id : Nat) (errand : Errand)
  | pop
  | next
  | blockedNext (alarm : Alarm)
  | abort
  | state
  /-- Runs a callback that was taken out; only what it tells is noted. -/
  | run (id : Nat)
  /-- Runs a callback that was taken out the way the host runs it. -/
  | execute (id : Nat)
  | drop (id : Nat)
  | wait (id : Nat) (limit : Option Span)
  | metrics

/-- What a step of a queue script comes to. -/
inductive QueueReport where
  | length (units : Nat)
  | rejected (id : Nat)
  /-- A callback was taken out, or there was none. -/
  | taken (id : Option Nat)
  | stop
  | wouldBlock
  | aborted (answer : Bool)
  | state (units : Nat) (aborted closed : Bool)
  /-- Whether the callback was told to have succeeded, and its fault. -/
  | ran (success : Bool) (fault : Option Fault)
  /-- The fault that went on to the host. -/
  | executed (id : Nat) (fault : Option Fault)
  | dropped (answer : Bool)
  | waited (result : Except Failure Yield)
  | metrics (metrics : Metrics)
  /-- There was no such callback. -/
  | missing

/-- The state of a queue script. -/
structure QueueBench where
  /-- The backlog above which a warning is written. -/
  warnDepth : Nat
  /-- The queue and who waits at it. -/
  monitor : Monitor Loose := {}
  /-- All handoffs so far. -/
  handoffs : Array (Handoff Yield) := #[]
  /-- The handoffs of the numbers, newest first. -/
  waiters : List (Nat × Nat) := []
  /-- The callbacks taken out, newest first, at most one under each number. -/
  held : List Loose := []
  /-- The counters. -/
  metrics : Metrics := {}
  /-- The host. -/
  host : Host Memory := Memory.host

namespace QueueBench

/-- The one who asks on behalf of the script. -/
def asker : Nat := 0

/-- Completes a handoff. -/
def complete (key : Nat) (completion : Completion Yield) (bench : QueueBench) : QueueBench :=
  { bench with
    handoffs := bench.handoffs.modify key fun handoff =>
      (handoff.complete completion).getD handoff }

/-- Pushes an errand under a number. -/
def push (id : Nat) (errand : Errand) (bench : QueueBench) : QueueReport × QueueBench :=
  let key := bench.handoffs.size
  let bench := { bench with
    handoffs := bench.handoffs.push {}
    waiters := (id, key) :: bench.waiters }
  match bench.monitor.push ⟨id, key, errand.callback⟩ asker with
  | (.ok (), monitor) =>
    let depth := monitor.queue.size
    let lines := Queue.pushLines (Callback.name id) depth bench.warnDepth
    let host := lines.foldl Host.write bench.host
    (.length depth, { bench with monitor := monitor, host := host })
  | (.error back, monitor) =>
    (.rejected back.id, { bench with monitor := monitor }.complete back.key .abandoned)

/-- Keeps a callback that was taken out.  One kept under the same number is dropped. -/
def hold (unit : Loose) (bench : QueueBench) : QueueBench :=
  let (dropped, others) := bench.held.partition (·.id = unit.id)
  dropped.foldl (fun bench older => bench.complete older.key .abandoned)
    { bench with held := unit :: others }

/-- Takes in what the asker was told, if it was told anything, and the monitor as it is then. -/
def receive (answer : Option (Next Loose)) (monitor : Monitor Loose) (bench : QueueBench) :
    QueueReport × QueueBench :=
  match answer with
  | some (.unit unit) => (.taken unit.id, { bench with monitor := monitor }.hold unit)
  | some .stop => (.stop, { bench with monitor := monitor })
  | none => (.wouldBlock, { bench with monitor := monitor })

/-- Asks for more if that needs no waiting. -/
def next (bench : QueueBench) : QueueReport × QueueBench :=
  match bench.monitor.look asker with
  | (some answer, monitor) => bench.receive (some answer) monitor
  | (none, _) => (.wouldBlock, bench)

/-- What wakes a blocked thread. -/
def sound (alarm : Alarm) (bench : QueueBench) : QueueBench :=
  match alarm with
  | .push id errand => (bench.push id errand).2
  | .abort => { bench with monitor := bench.monitor.abort }

/-- Asks for more and waits for it.  The alarm sounds once the asker is asleep or has its
answer. -/
def blockedNext (alarm : Alarm) (bench : QueueBench) : QueueReport × QueueBench :=
  match bench.monitor.look asker with
  | (some answer, monitor) =>
    let (report, bench) := bench.receive (some answer) monitor
    (report, bench.sound alarm)
  | (none, monitor) =>
    let bench := { bench with monitor := monitor }.sound alarm
    match bench.monitor.resume asker with
    | some (answer, monitor) => bench.receive answer monitor
    | none => (.wouldBlock, bench)

/-- Takes a callback out of the script's hands. -/
def take? (id : Nat) (bench : QueueBench) : Option (Loose × QueueBench) :=
  (bench.held.find? (·.id = id)).map fun unit =>
    (unit, { bench with held := bench.held.eraseP (·.id = id) })

/-- Runs a callback, and lets what happens afterwards count if `counting` says so. -/
def runUnit (counting : Bool) (unit : Loose) (bench : QueueBench) :
    Option Fault × Bool × QueueBench :=
  let host := if counting then bench.host.write (Callback.beginLine unit.id) else bench.host
  let work := unit.callback.invoke host
  let counted (success : Bool) (metrics : Metrics) : Metrics :=
    if counting then
      (metrics.recordExecutedAt ⟨0⟩ ⟨0⟩ success).recordRoutingErrors work.misrouted
    else metrics
  let lines := if counting then Callback.endLines unit.id (faultOf work.outcome) else []
  let after := { bench with
    metrics := counted (succeeded work.outcome) bench.metrics
    host := lines.foldl Host.write work.world }
  (faultOf work.outcome, succeeded work.outcome,
    after.complete unit.key (.ofOutcome work.outcome))

/-- Waits for the result of the callback with this number. -/
def wait (id : Nat) (limit : Option Span) (bench : QueueBench) : QueueReport × QueueBench :=
  match bench.waiters.lookup id with
  | some key =>
    match bench.handoffs[key]? with
    | some handoff =>
      let keep (handoff : Handoff Yield) : QueueBench :=
        { bench with handoffs := bench.handoffs.set! key handoff }
      match handoff.await limit with
      | (some result, handoff) => (.waited result, keep handoff)
      | (none, handoff) => (.wouldBlock, keep handoff)
    | none => (.missing, bench)
  | none => (.missing, bench)

/-- One step. -/
def step (bench : QueueBench) : QueueStep → QueueReport × QueueBench
  | .push id errand => bench.push id errand
  | .pop =>
    match bench.monitor.pop with
    | (some unit, monitor) => (.taken unit.id, { bench with monitor := monitor }.hold unit)
    | (none, monitor) => (.taken none, { bench with monitor := monitor })
  | .next => bench.next
  | .blockedNext alarm => bench.blockedNext alarm
  | .abort =>
    let monitor := bench.monitor.abort
    (.aborted monitor.queue.aborted, { bench with monitor := monitor })
  | .state =>
    let queue := bench.monitor.queue
    (.state queue.size queue.aborted queue.closed, bench)
  | .run id =>
    match bench.take? id with
    | some (unit, bench) =>
      let (fault, success, bench) := bench.runUnit false unit
      (.ran success fault, bench)
    | none => (.missing, bench)
  | .execute id =>
    match bench.take? id with
    | some (unit, bench) =>
      let (fault, _, bench) := bench.runUnit true unit
      (.executed id fault, bench)
    | none => (.missing, bench)
  | .drop id =>
    match bench.take? id with
    | some (unit, bench) => (.dropped true, bench.complete unit.key .abandoned)
    | none => (.dropped false, bench)
  | .wait id limit => bench.wait id limit
  | .metrics => (.metrics bench.metrics, bench)

/-- All steps, each with what it left behind. -/
def play : List QueueStep → QueueBench → List (Took QueueReport)
  | [], _ => []
  | step :: rest, bench =>
    let (report, bench) := bench.step step
    let (trace, lines, host) := emptied bench.host
    ⟨report, trace, lines⟩ :: play rest { bench with host := host }

end QueueBench
end CallbackFerry.Rehearsal
