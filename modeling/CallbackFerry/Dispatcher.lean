import CallbackFerry.Failure
import CallbackFerry.Queue

/-!
# The dispatcher

The dispatcher takes units from the queue one by one and offers each to the host.  It never runs a
unit itself, and whatever the host answers it goes on.  When the queue is aborted and drained it
retires for good.

Its work is cut into moves, each of them possible only in one phase:

    idle --take--> offering --offer--> settling --settle--> idle
    idle --take--> closing --retire--> retired

What others can see of it is the last state it published.
-/

namespace CallbackFerry

/-- What the dispatcher lets others see. -/
inductive DispatcherState where
  /-- It waits for the queue. -/
  | waiting
  /-- It offers a unit to the host. -/
  | running
  /-- It has retired. -/
  | stopped
  deriving DecidableEq, Repr, Inhabited

/-- The name of a state. -/
def DispatcherState.name : DispatcherState → String
  | .waiting => "Waiting"
  | .running => "Running"
  | .stopped => "Stopped"

/-- Where the dispatcher is in its work. -/
inductive DispatcherPhase (τ : Type) where
  /-- It is about to ask the queue for more. -/
  | idle
  /-- It holds a unit and offers it to the host. -/
  | offering (unit : τ)
  /-- The host has answered. -/
  | settling
  /-- The queue has closed. -/
  | closing
  /-- It has retired. -/
  | retired
  deriving DecidableEq, Repr, Inhabited

/-- What the host answers when it is offered a unit. -/
inductive Reception where
  /-- It accepts the unit. -/
  | accepted
  /-- It refuses the unit. -/
  | refused (cause : Failure)
  /-- It breaks off. -/
  | brokeOff
  deriving DecidableEq, Repr

/-- The dispatcher and its queue. -/
structure Dispatcher (τ : Type) where
  /-- The queue. -/
  queue : Queue τ := {}
  /-- Where the dispatcher is in its work. -/
  phase : DispatcherPhase τ := .idle
  /-- How many units were offered and answered. -/
  dispatched : Nat := 0
  /-- The units offered so far, newest first. -/
  offered : List τ := []
  /-- The states published so far, newest first. -/
  published : List DispatcherState := [.waiting]
  deriving Repr, Inhabited

namespace Dispatcher

variable {τ : Type}

/-- The state that others see. -/
def state (dispatcher : Dispatcher τ) : DispatcherState :=
  dispatcher.published.headD .waiting

/-- Asks the queue for more; not possible while there is nothing to be told. -/
def take (dispatcher : Dispatcher τ) : Option (Dispatcher τ) :=
  match dispatcher.phase with
  | .idle =>
    match dispatcher.queue.next? with
    | some (.unit unit, queue) =>
      some { dispatcher with
        queue := queue
        phase := .offering unit
        published := .running :: dispatcher.published }
    | some (.stop, queue) => some { dispatcher with queue := queue, phase := .closing }
    | none => none
  | _ => none

/-- The unit on offer, and the dispatcher after the host has answered. -/
def offer (dispatcher : Dispatcher τ) : Option (τ × Dispatcher τ) :=
  match dispatcher.phase with
  | .offering unit =>
    some (unit,
      { dispatcher with phase := .settling, offered := unit :: dispatcher.offered })
  | _ => none

/-- Counts the unit and goes back to the queue. -/
def settle (dispatcher : Dispatcher τ) : Option (Dispatcher τ) :=
  match dispatcher.phase with
  | .settling =>
    some { dispatcher with
      phase := .idle
      dispatched := dispatcher.dispatched + 1
      published := .waiting :: dispatcher.published }
  | _ => none

/-- Retires. -/
def retire (dispatcher : Dispatcher τ) : Option (Dispatcher τ) :=
  match dispatcher.phase with
  | .closing =>
    some { dispatcher with
      phase := .retired
      published := .stopped :: dispatcher.published }
  | _ => none

/-- Asks the dispatcher to retire once the queue is drained. -/
def abort (dispatcher : Dispatcher τ) : Dispatcher τ :=
  { dispatcher with queue := dispatcher.queue.abort }

/-! ### What it says -/

/-- A line spoken by the dispatcher. -/
def line (level : Level) (message : String) : LogLine :=
  { level := level, component := .dispatcher, message := message }

/-- The line at the start. -/
def startLine : LogLine :=
  line .info "Callback dispatcher started"

/-- The line before a unit is offered. -/
def takeLine (name : String) : LogLine :=
  { line .debug "Dispatching callback to host domain" with fields := [("unit", name)] }

/-- The lines about the host's answer. -/
def receptionLines (name : String) : Reception → List LogLine
  | .accepted => []
  | .refused cause =>
    [{ line .warn ("Host refused callback: " ++ cause.message) with
       fields := [("unit", name)] }]
  | .brokeOff =>
    [{ line .error "Panic while scheduling callback" with fields := [("unit", name)] }]

/-- The line at the end. -/
def retireLine (dispatched : Nat) : LogLine :=
  line .info ("Callback dispatcher stopped after " ++ toString dispatched ++ " callbacks")

end Dispatcher
end CallbackFerry
