import CallbackFerry.Callback
import CallbackFerry.Dispatcher
import CallbackFerry.Settings.Validation

/-!
# The bridge between drivers and the host

A driver *submits* a callback: it draws a number, queues the callback, and waits until the host
has run it, has lost it, or the time limit passes.  The bridge holds one `Submission` for each
call, and knows where its callback is: in the queue, in the dispatcher's hand, held by the host,
or running there.

Everybody's work is cut into moves, and each move is a function on the bridge that is possible only
in some states.  Which move comes next is left open: drivers, dispatcher and host go on in any
order, and the host decides which of the tasks it holds it runs, and when, and which it drops.
-/

namespace CallbackFerry

/-- A callback on its way: its place among the submissions and the number drawn for it. -/
structure Ticket where
  /-- Its place among the submissions. -/
  key : Nat
  /-- Its number. -/
  id : Nat
  deriving DecidableEq, Repr, Inhabited

/-- Where the driver is in its call. -/
inductive Caller (ρ : Type) where
  /-- It has drawn a number and is about to queue its callback. -/
  | drawn
  /-- It waits. -/
  | waiting
  /-- It knows the result and is about to take note of it. -/
  | leaving (result : Except Failure ρ)
  /-- Its call is over. -/
  | returned (result : Except Failure ρ)

/-- One call of a driver. -/
structure Submission (π ω ρ : Type) where
  /-- The number drawn for it. -/
  id : Nat
  /-- What the host shall run. -/
  callback : Callback π ω ρ
  /-- How the callback ended, once it has, until the driver takes it. -/
  slot : Option (Completion ρ) := none
  /-- Where the driver is. -/
  caller : Caller ρ := .drawn
  /-- What the invocations of the callback's function have come to, newest first. -/
  outcomes : List (Except Fault ρ) := []

/-- A task that the host is running: what is still to happen after its function has ended. -/
structure Running (ρ : Type) where
  /-- The callback. -/
  ticket : Ticket
  /-- What is still to happen, in order. -/
  ahead : List (Milestone ρ)

/-- The bridge. -/
structure Bridge (π ω ρ : Type) where
  /-- How long a driver waits; for ever if absent. -/
  timeout : Option Span := none
  /-- The backlog above which a warning is written. -/
  warnDepth : Nat := Nat.pow 2 64 - 1
  /-- All calls so far. -/
  submissions : Array (Submission π ω ρ) := #[]
  /-- The dispatcher and the queue. -/
  dispatcher : Dispatcher Ticket := {}
  /-- The tasks that the host holds. -/
  held : List Ticket := []
  /-- The tasks that the host is running. -/
  running : List (Running ρ) := []
  /-- What came out of the tasks that the host has run, newest first: nothing, or the fault that was
  raised again. -/
  surfaced : List (Ticket × Option Fault) := []
  /-- The counters. -/
  metrics : Metrics := {}
  /-- The lines written. -/
  journal : Journal := {}

namespace Bridge

variable {π ω ρ : Type}

/-- The bridge with more lines. -/
def write (lines : List LogLine) (bridge : Bridge π ω ρ) : Bridge π ω ρ :=
  { bridge with journal := bridge.journal.append lines }

/-- The bridge with the counters changed. -/
def count (change : Metrics → Metrics) (bridge : Bridge π ω ρ) : Bridge π ω ρ :=
  { bridge with metrics := change bridge.metrics }

/-- The bridge with one submission changed. -/
def revise (key : Nat) (change : Submission π ω ρ → Submission π ω ρ)
    (bridge : Bridge π ω ρ) : Bridge π ω ρ :=
  { bridge with submissions := bridge.submissions.modify key change }

/-- Puts the ending of a callback into the slot of its submission. -/
def complete (key : Nat) (completion : Completion ρ) (bridge : Bridge π ω ρ) :
    Bridge π ω ρ :=
  bridge.revise key fun submission => { submission with slot := some completion }

/-- Lets out what is left of a task at its end: nothing, or its fault, which is written down before
it is raised again. -/
def surface (ticket : Ticket) (fault : Option Fault) (bridge : Bridge π ω ρ) : Bridge π ω ρ :=
  { bridge.write (Callback.endLines ticket.id fault) with
    surfaced := (ticket, fault) :: bridge.surfaced }

/-- Takes a submission's driver to another place. -/
def bring (key : Nat) (caller : Caller ρ) (bridge : Bridge π ω ρ) : Bridge π ω ρ :=
  bridge.revise key fun submission => { submission with caller := caller }

/-! ### Lines -/

/-- A line spoken by the bridge about one callback. -/
def unitLine (level : Level) (message : String) (id : Nat) : LogLine :=
  { level := level
    component := .bridge
    message := message
    fields := [("unit", Callback.name id)] }

/-- A line spoken by the bridge. -/
def line (level : Level) (message : String) : LogLine :=
  { level := level, component := .bridge, message := message }

/-- The line before a shutdown. -/
def shutdownLine (bridge : Bridge π ω ρ) : LogLine :=
  line .info ("Shutting down callback bridge ("
    ++ toString bridge.dispatcher.queue.size ++ " queued)")

/-- The line after a shutdown, with the counters then. -/
def stoppedLine (metrics : Metrics) : LogLine :=
  line .info ("Callback bridge stopped: " ++ toString metrics.submitted ++ " submitted, "
    ++ toString metrics.completed ++ " completed, " ++ toString metrics.faulted ++ " faulted")

/-- What a driver takes note of when its call ends so: counters and lines. -/
def parting (number : Nat) : Except Failure ρ → (Metrics → Metrics) × List LogLine
  | .error .shutDown =>
    (Metrics.recordRejected, [unitLine .debug "Callback rejected, bridge is shut down" number])
  | .error .abandoned =>
    (Metrics.recordAbandoned, [unitLine .warn "Callback abandoned by host domain" number])
  | .error (.timeout after) =>
    (Metrics.recordTimeout, [unitLine .warn ("No callback result after " ++ after.text) number])
  | _ => (id, [])

/-! ### Start -/

/-- The fault of a thread name with a NUL character: the position of the first one and the bytes
of the name are told. -/
def nulNameFault (name : String) : Fault :=
  let bytes := name.toUTF8.toList
  .message ("thread name may not contain interior null bytes: NulError("
    ++ toString (bytes.takeWhile (· != 0)).length ++ ", " ++ Bytes.decimalListing bytes ++ ")")

/-- The bridge at the start: nothing has been submitted, and its dispatcher waits. -/
def fresh (settings : BridgeSettings) : Bridge π ω ρ :=
  ({ timeout := settings.timeout, warnDepth := settings.warnDepth } : Bridge π ω ρ).write
    [Dispatcher.startLine,
      line .info ("Callback bridge started (dispatcher thread '" ++ settings.threadName ++ "')")]

/-- Spawns a thread of this name, or tells why the operating system refuses to.  A name that holds a
NUL character cannot be passed on, and breaks the attempt off. -/
def spawn (name : String) (refusal : Option String) : Except Fault (Except Failure Unit) :=
  if name.toList.contains '\x00' then .error (nulNameFault name)
  else
    match refusal with
    | some reason => .ok (.error (.io reason))
    | none => .ok (.ok ())

/-- Starts a bridge with usable settings, unless the operating system refuses the thread of its
dispatcher.  Whether the thread can have its name is not among the rules for the settings. -/
def startUnless (refusal : Option String) (settings : BridgeSettings) :
    Except Fault (Except Failure (Bridge π ω ρ)) :=
  match settings.flaw? with
  | some flaw => .ok (.error flaw.failure)
  | none => (spawn settings.threadName refusal).map fun spawned =>
    spawned.map fun _ => fresh settings

/-- Starts a bridge where the operating system does not refuse its thread. -/
def start (settings : BridgeSettings) : Except Fault (Except Failure (Bridge π ω ρ)) :=
  startUnless none settings

section Start

variable {settings : BridgeSettings} {refusal : Option String}

theorem startUnless_of_flaw {flaw : BridgeFlaw} (found : settings.flaw? = some flaw) :
    (startUnless refusal settings : Except Fault (Except Failure (Bridge π ω ρ))) =
      .ok (.error flaw.failure) := by
  rw [startUnless, found]

theorem startUnless_of_nul (usable : settings.flaw? = none)
    (nul : '\x00' ∈ settings.threadName.toList) :
    (startUnless refusal settings : Except Fault (Except Failure (Bridge π ω ρ))) =
      .error (nulNameFault settings.threadName) := by
  simp only [startUnless, usable, spawn, if_pos (List.contains_iff_mem.mpr nul)]
  rfl

theorem startUnless_of_plain (usable : settings.flaw? = none)
    (plain : '\x00' ∉ settings.threadName.toList) :
    (startUnless refusal settings : Except Fault (Except Failure (Bridge π ω ρ))) =
      .ok (match refusal with
        | some reason => .error (.io reason)
        | none => .ok (fresh settings)) := by
  simp only [startUnless, usable, spawn, if_neg (mt List.contains_iff_mem.mp plain)]
  cases refusal <;> rfl

end Start

end Bridge
end CallbackFerry
