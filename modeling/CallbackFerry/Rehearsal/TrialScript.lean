import CallbackFerry.Rehearsal.StationScript

/-!
# Rehearsing trials

A trial puts a driver on a thread of its own in front of a host's loop, and waits until both are
done.  The driver lets the host go when it is done, and then the loop ends as soon as it has run
what it was given.  A trial has a limit, which may pass before that; a driver that is stuck is left
behind.
-/

namespace CallbackFerry.Rehearsal

/-- A trial, with drivers that return something of a type `ν`. -/
inductive Trial (ν : Type) where
  /-- A driver that is stuck. -/
  | stuck (limit : Span)
  /-- A driver that breaks off at once. -/
  | breaking (fault : Fault)
  /-- A driver that returns at once. -/
  | returning (value : ν)
  /-- An errand is given, under a number, to a loop that was given up, and waited for. -/
  | abandoned (id : Nat) (errand : Errand)
  /-- No host and no driver, but a step that takes so long and returns something. -/
  | step (limit work : Span) (value : ν)

/-- What a trial comes to. -/
inductive TrialReport (ν : Type) where
  | failed (failure : Failure)
  | brokeOff (fault : Fault)
  /-- What the driver returned, and the loop at its end. -/
  | ended (value : ν) (loop : HostLoop Ticket)
  /-- How an errand was received, and what it came to, unless that has no end. -/
  | received (reception : Reception) (result : Option (Except Failure Yield))
  | returned (value : ν)
  /-- A step took longer than its limit. -/
  | overdue (message : String)

namespace Trial

variable {α ν : Type}

/-- How long a trial may take that has no limit of its own. -/
def usualLimit : Span := ⟨5000000000⟩

/-- Waits for something that is there after some time, or never, and gives up at a limit. -/
def within (limit : Span) : Option (Span × α) → Except Span α
  | some (took, value) => if took.nanos ≤ limit.nanos then .ok value else .error limit
  | none => .error limit

/-- What is said of a step that took longer than its limit. -/
def overdueMessage (limit : Span) : String :=
  "Test step did not finish within " ++ limit.text

/-- Tries a driver that gives the host nothing, and that returns or breaks off after some time, or
is stuck. -/
def drive (limit : Span) (driver : Option (Span × Except Fault ν)) : TrialReport ν :=
  match within limit driver with
  | .error limit => .failed (.timeout limit)
  | .ok (.error fault) => .brokeOff fault
  | .ok (.ok value) =>
    -- With the last handle gone the channel of the loop is closed.
    match (HostLoop.close {}).finish with
    | some loop => .ended value loop
    | none => .failed (.timeout limit)

/-- Gives an errand to a loop that was given up, and waits for its result.  A task that the loop
does not keep is lost, and its driver is told. -/
def giveLate (id : Nat) (errand : Errand) : Reception × Option (Except Failure Yield) :=
  let (ticket, bridge) := Bridge.place id errand.callback ({} : Bridge Errand (Host Memory) Yield)
  let (reception, _) := Station.Backing.receive ticket (.loop (HostLoop.giveUp {}).2)
  let left := if reception = .accepted then bridge else bridge.complete ticket.key .abandoned
  (reception, (left.submissions[ticket.key]?.bind (·.slot)).map Completion.result)

/-- What a trial comes to. -/
def run : Trial ν → TrialReport ν
  | .stuck limit => drive limit none
  | .breaking fault => drive usualLimit (some (⟨0⟩, .error fault))
  | .returning value => drive usualLimit (some (⟨0⟩, .ok value))
  | .abandoned id errand =>
    let (reception, result) := giveLate id errand
    .received reception result
  | .step limit work value =>
    match within limit (some (work, value)) with
    | .ok value => .returned value
    | .error limit => .overdue (overdueMessage limit)

end Trial
end CallbackFerry.Rehearsal
