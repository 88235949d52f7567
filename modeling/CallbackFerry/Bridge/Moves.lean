import CallbackFerry.Bridge.Basic

/-!
# The moves of drivers, dispatcher and host

The moves come in three groups.  A *driver* draws, pushes, then collects the result or lets its
limit expire, and leaves.  The *dispatcher* takes, offers, settles, and retires in the end.  The
*host* begins a task it holds, advances a running one by one milestone, or drops one.  Each move
returns nothing if it is not possible.
-/

namespace CallbackFerry.Bridge

variable {π ω ρ : Type}

/-! ### Drivers -/

/-- Adds a submission with a given number that nobody has pushed yet; also returns its ticket. -/
def place (id : Nat) (callback : Callback π ω ρ) (bridge : Bridge π ω ρ) :
    Ticket × Bridge π ω ρ :=
  (⟨bridge.submissions.size, id⟩,
    { bridge with
      submissions := bridge.submissions.push { id := id, callback := callback } })

/-- A driver draws the next number for its callback, and the attempt is counted. -/
def draw (callback : Callback π ω ρ) (bridge : Bridge π ω ρ) : Ticket × Bridge π ω ρ :=
  (bridge.count Metrics.recordSubmitted).place (bridge.submissions.size + 1) callback

/-- A driver appends its callback to the queue and begins to wait, or gets it back from a closed
queue and loses it. -/
def push (key : Nat) (bridge : Bridge π ω ρ) : Option (Bridge π ω ρ) :=
  match bridge.submissions[key]? with
  | some submission =>
    match submission.caller with
    | .drawn =>
      match bridge.dispatcher.queue.push ⟨key, submission.id⟩ with
      | (.ok (), queue) =>
        let pushed := { bridge with dispatcher := { bridge.dispatcher with queue := queue } }
        some ((pushed.bring key .waiting).write
          (Queue.pushLines (Callback.name submission.id) queue.size bridge.warnDepth))
      | (.error back, _) =>
        some ((bridge.complete back.key .abandoned).bring key (.leaving (.error .shutDown)))
    | _ => none
  | none => none

/-- A driver takes the result out of its slot. -/
def collect (key : Nat) (bridge : Bridge π ω ρ) : Option (Bridge π ω ρ) :=
  match bridge.submissions[key]? with
  | some submission =>
    match submission.caller, submission.slot with
    | .waiting, some completion =>
      some (bridge.revise key fun submission =>
        { submission with slot := none, caller := .leaving completion.result })
    | _, _ => none
  | none => none

/-- The limit of a driver passes while its slot is empty. -/
def expire (key : Nat) (bridge : Bridge π ω ρ) : Option (Bridge π ω ρ) :=
  match bridge.submissions[key]? with
  | some submission =>
    match submission.caller, submission.slot, bridge.timeout with
    | .waiting, none, some limit =>
      some (bridge.bring key (.leaving (.error (.timeout limit))))
    | _, _, _ => none
  | none => none

/-- A driver takes note of how its call ended, and the call is over. -/
def leave (key : Nat) (bridge : Bridge π ω ρ) : Option (Bridge π ω ρ) :=
  match bridge.submissions[key]? with
  | some submission =>
    match submission.caller with
    | .leaving result =>
      let (change, lines) := parting submission.id result
      some (((bridge.count change).write lines).bring key (.returned result))
    | _ => none
  | none => none

/-! ### The dispatcher -/

/-- The bridge with another dispatcher. -/
def withDispatcher (dispatcher : Dispatcher Ticket) (bridge : Bridge π ω ρ) : Bridge π ω ρ :=
  { bridge with dispatcher := dispatcher }

/-- The dispatcher is asked to retire once the queue is drained. -/
def abort (bridge : Bridge π ω ρ) : Bridge π ω ρ :=
  bridge.withDispatcher bridge.dispatcher.abort

/-- The dispatcher asks the queue for more. -/
def take (bridge : Bridge π ω ρ) : Option (Bridge π ω ρ) :=
  match bridge.dispatcher.take with
  | some dispatcher =>
    let lines :=
      match dispatcher.phase with
      | .offering ticket => [Dispatcher.takeLine (Callback.name ticket.id)]
      | _ => []
    some ((bridge.withDispatcher dispatcher).write lines)
  | none => none

/-- The host answers the dispatcher's offer, and whatever it answers it keeps the task or does not.
A task that it does not keep is lost. -/
def offer (reception : Reception) (keeps : Bool) (bridge : Bridge π ω ρ) :
    Option (Bridge π ω ρ) :=
  match bridge.dispatcher.offer with
  | some (ticket, dispatcher) =>
    let answered := (bridge.withDispatcher dispatcher).write
      (Dispatcher.receptionLines (Callback.name ticket.id) reception)
    if keeps then some { answered with held := answered.held ++ [ticket] }
    else some (answered.complete ticket.key .abandoned)
  | none => none

/-- The dispatcher counts what it offered and goes back to the queue. -/
def settle (bridge : Bridge π ω ρ) : Option (Bridge π ω ρ) :=
  bridge.dispatcher.settle.map fun dispatcher => bridge.withDispatcher dispatcher

/-- The dispatcher retires. -/
def retire (bridge : Bridge π ω ρ) : Option (Bridge π ω ρ) :=
  bridge.dispatcher.retire.map fun dispatcher =>
    (bridge.withDispatcher dispatcher).write [Dispatcher.retireLine dispatcher.dispatched]

/-! ### The host -/

/-- Takes a task out of those that the host holds. -/
def release (key : Nat) (bridge : Bridge π ω ρ) : Option (Ticket × Bridge π ω ρ) :=
  match bridge.held.find? (·.key = key) with
  | some ticket => some (ticket, { bridge with held := bridge.held.erase ticket })
  | none => none

/-- The host applies the function of a task it holds, in a world of its choice; also returns what
that came to. -/
def begin (key : Nat) (world : ω) (bridge : Bridge π ω ρ) :
    Option (Work ω ρ × Bridge π ω ρ) :=
  match bridge.release key, bridge.submissions[key]? with
  | some (ticket, released), some submission =>
    let work := submission.callback.invoke world
    let begun := (released.write [Callback.beginLine ticket.id]).revise key fun submission =>
      { submission with outcomes := work.outcome :: submission.outcomes }
    some (work,
      { begun.count (·.recordRoutingErrors work.misrouted) with
        running := ⟨ticket, milestones work.outcome⟩ :: begun.running })
  | _, _ => none

/-- What one milestone of a task does. -/
def reach (ticket : Ticket) (timing : Timing) (bridge : Bridge π ω ρ) :
    Milestone ρ → Bridge π ω ρ
  | .counted success => bridge.count (·.recordExecutedAt timing.finished timing.latency success)
  | .released completion => bridge.complete ticket.key completion
  | .ended fault => bridge.surface ticket fault

/-- A running task reaches its next milestone; after the last one it is gone. -/
def advance (key : Nat) (timing : Timing) (bridge : Bridge π ω ρ) : Option (Bridge π ω ρ) :=
  match bridge.running.find? (·.ticket.key = key) with
  | some task =>
    let others := bridge.running.filter (·.ticket.key ≠ key)
    match task.ahead with
    | [] => some { bridge with running := others }
    | milestone :: rest =>
      let left := if rest.isEmpty then others else ⟨task.ticket, rest⟩ :: others
      some ({ bridge with running := left }.reach task.ticket timing milestone)
  | none => none

/-- The host drops a task it holds. -/
def drop (key : Nat) (bridge : Bridge π ω ρ) : Option (Bridge π ω ρ) :=
  (bridge.release key).map fun (ticket, released) => released.complete ticket.key .abandoned

/-! ### Any move -/

/-- A move of anybody. -/
inductive Move (π ω ρ : Type) where
  | draw (callback : Callback π ω ρ)
  | push (key : Nat)
  | collect (key : Nat)
  | expire (key : Nat)
  | leave (key : Nat)
  | abort
  | take
  | offer (reception : Reception) (keeps : Bool)
  | settle
  | retire
  | begin (key : Nat) (world : ω)
  | advance (key : Nat) (timing : Timing)
  | drop (key : Nat)

/-- The bridge after a move, if the move is possible. -/
def step (bridge : Bridge π ω ρ) : Move π ω ρ → Option (Bridge π ω ρ)
  | .draw callback => some (bridge.draw callback).2
  | .push key => bridge.push key
  | .collect key => bridge.collect key
  | .expire key => bridge.expire key
  | .leave key => bridge.leave key
  | .abort => some bridge.abort
  | .take => bridge.take
  | .offer reception keeps => bridge.offer reception keeps
  | .settle => bridge.settle
  | .retire => bridge.retire
  | .begin key world => (bridge.begin key world).map (·.2)
  | .advance key timing => bridge.advance key timing
  | .drop key => bridge.drop key

/-- The bridge after a list of moves; one that is not possible changes nothing. -/
def play (bridge : Bridge π ω ρ) (moves : List (Move π ω ρ)) : Bridge π ω ρ :=
  moves.foldl (fun bridge move => (bridge.step move).getD bridge) bridge

end Bridge
end CallbackFerry
