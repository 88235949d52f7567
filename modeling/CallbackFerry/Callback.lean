import CallbackFerry.Handoff
import CallbackFerry.Journal
import CallbackFerry.Metrics.Counters

/-!
# Callbacks

A callback is a payload and a function that the host applies to it once.  The function sees the
host's world and may change it; it returns a result or breaks off, and it may find that an event
had no handler to go to.

Running a callback has an order that the drivers rely on, the list of its `milestones`: once the
function has ended it is counted, then the waiting driver is released, and only then does the
function's fault go on to the host.
-/

namespace CallbackFerry

/-- What one application of a callback's function comes to. -/
structure Work (ω ρ : Type) where
  /-- The result, or the fault that broke it off. -/
  outcome : Except Fault ρ
  /-- The host's world afterwards. -/
  world : ω
  /-- How many events turned out to have no handler. -/
  misrouted : Nat := 0

/-- A payload and the function to apply to it, in a host whose world is an `ω`. -/
structure Callback (π ω ρ : Type) where
  /-- The payload. -/
  payload : π
  /-- The function. -/
  function : π → ω → Work ω ρ

/-- Applies the function to the payload. -/
def Callback.invoke {π ω ρ : Type} (callback : Callback π ω ρ) (world : ω) : Work ω ρ :=
  callback.function callback.payload world

/-- What happens after a callback's function has ended. -/
inductive Milestone (ρ : Type) where
  /-- It is counted, as completed or as faulted. -/
  | counted (success : Bool)
  /-- The waiting driver is released. -/
  | released (completion : Completion ρ)
  /-- The host is told: nothing, or the fault. -/
  | ended (fault : Option Fault)

/-- Whether a callback returned. -/
def succeeded {ρ : Type} : Except Fault ρ → Bool
  | .ok _ => true
  | .error _ => false

/-- The fault that broke a callback off. -/
def faultOf {ρ : Type} : Except Fault ρ → Option Fault
  | .ok _ => none
  | .error fault => some fault

/-- What happens after a function has ended so, in order. -/
def milestones {ρ : Type} (outcome : Except Fault ρ) : List (Milestone ρ) :=
  [.counted (succeeded outcome), .released (.ofOutcome outcome), .ended (faultOf outcome)]

namespace Callback

/-- The name of a callback in log lines. -/
def name (id : Nat) : String := "#" ++ toString id

/-- How a callback lists itself: its payload is shown, its function is not. -/
def listing (payload : Bytes) : String :=
  "CallbackUnit \x7b payload: " ++ Bytes.decimalListing payload ++ ", .. \x7d"

/-- How a task in the host lists itself. -/
def taskListing (id : Nat) : String :=
  name id ++ " ExecutionTask \x7b unit: UnitId(" ++ toString id ++ ") \x7d"

/-- The line before a callback's function is applied. -/
def beginLine (id : Nat) : LogLine :=
  { level := .debug
    component := .execution
    message := "Executing callback"
    fields := [("unit", name id)] }

/-- The lines when a callback has ended: one about its fault, if it has one. -/
def endLines (id : Nat) : Option Fault → List LogLine
  | none => []
  | some fault =>
    [{ level := .warn
       component := .execution
       message := "Callback faulted: " ++ fault.text
       fields := [("unit", name id)] }]

end Callback
end CallbackFerry
