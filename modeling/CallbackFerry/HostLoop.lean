import CallbackFerry.Failure
import CallbackFerry.Journal

/-!
# The loop that runs tasks in the host

The host's own loop receives tasks through a channel in the order in which they were accepted and
starts each as it comes.  A started task runs to its end without a break, one task at a time, in
the order started.  A task that has ended is noticed later, in any order; a fault is counted then
and given to the hook.

The loop is over when its channel is closed and nothing is left in it, started or unnoticed.  If
the loop is given up before that, what it has started and not run is lost with it, while tasks
still in the channel stay there as long as somebody holds the sending end.
-/

namespace CallbackFerry

/-- The loop, with tasks of a type `τ`. -/
structure HostLoop (τ : Type) where
  /-- The tasks in the channel, oldest first. -/
  arrived : List τ := []
  /-- Whether the channel is closed. -/
  closed : Bool := false
  /-- The tasks started and not run yet, oldest first. -/
  started : List τ := []
  /-- The tasks that have run and were not noticed yet, with their faults. -/
  ended : List (τ × Option Fault) := []
  /-- How many tasks were started. -/
  executed : Nat := 0
  /-- How many faults were noticed. -/
  faults : Nat := 0
  /-- The faults given to the hook, newest first. -/
  hooked : List Fault := []
  /-- Whether the loop is over. -/
  isOver : Bool := false
  deriving Repr, Inhabited

namespace HostLoop

variable {τ : Type}

/-- Why a closed channel takes no task. -/
def closedFailure (name : String) : Failure :=
  .hostUnavailable ("host runtime closed, dropping " ++ name)

/-- Puts a task into the channel; a closed channel refuses. -/
def schedule (task : τ) (loop : HostLoop τ) : Option (HostLoop τ) :=
  if loop.closed then none else some { loop with arrived := loop.arrived ++ [task] }

/-- Closes the channel. -/
def close (loop : HostLoop τ) : HostLoop τ :=
  { loop with closed := true }

/-- Receives the oldest task of the channel and starts it. -/
def receive (loop : HostLoop τ) : Option (HostLoop τ) :=
  if loop.isOver then none
  else match loop.arrived with
    | task :: rest =>
      some { loop with
        arrived := rest
        started := loop.started ++ [task]
        executed := loop.executed + 1 }
    | [] => none

/-- The task to be run next. -/
def next? (loop : HostLoop τ) : Option τ :=
  if loop.isOver then none else loop.started.head?

/-- The task to be run next has run, with this fault if it broke off. -/
def ran (fault : Option Fault) (loop : HostLoop τ) : Option (HostLoop τ) :=
  if loop.isOver then none
  else match loop.started with
    | task :: rest =>
      some { loop with started := rest, ended := loop.ended ++ [(task, fault)] }
    | [] => none

/-- Counts a fault and gives it to the hook. -/
def observe (fault : Option Fault) (loop : HostLoop τ) : HostLoop τ :=
  match fault with
  | none => loop
  | some fault => { loop with faults := loop.faults + 1, hooked := fault :: loop.hooked }

/-- Notices one of the tasks that have run. -/
def notice (index : Nat) (loop : HostLoop τ) : Option (HostLoop τ) :=
  if loop.isOver then none
  else match loop.ended[index]? with
    | some (_, fault) => some ({ loop with ended := loop.ended.eraseIdx index }.observe fault)
    | none => none

/-- Ends the loop, once its channel is closed and nothing is left to do. -/
def finish (loop : HostLoop τ) : Option (HostLoop τ) :=
  if !loop.isOver && loop.closed && loop.arrived.isEmpty && loop.started.isEmpty
      && loop.ended.isEmpty then
    some { loop with isOver := true }
  else none

/-- Gives the loop up: the tasks started and not run are lost, and returned. -/
def giveUp (loop : HostLoop τ) : List τ × HostLoop τ :=
  (loop.started, { loop with closed := true, started := [], ended := [], isOver := true })

/-! ### What it says -/

/-- A line spoken by the loop. -/
def line (level : Level) (message : String) : LogLine :=
  { level := level, component := .host, message := message }

/-- The line at the start. -/
def startLine : LogLine :=
  line .info "Host domain running"

/-- The lines when a task's end is noticed: one about its fault, if it has one. -/
def noticeLines : Option Fault → List LogLine
  | none => []
  | some fault => [line .error ("Callback fault in host domain: " ++ fault.text)]

/-- The line at the end. -/
def finishLine (loop : HostLoop τ) : LogLine :=
  line .info ("Host domain stopped (" ++ toString loop.executed ++ " executed, "
    ++ toString loop.faults ++ " faults)")

end HostLoop
end CallbackFerry
