import CallbackFerry.Callback
import CallbackFerry.HostLoop

/-!
# The domain of the host

Whoever holds a sending end can schedule tasks: they reach the host's loop in the order in which its
channel accepts them, until somebody closes the channel or the last sending end is dropped.  A task
that is refused is dropped, and with it the host's half of its handoff.

The loop has two stages.  While it is `selecting` it receives tasks and notices ends, in any order;
once the channel is closed and empty it is `draining` and only notices ends, until there are none
left.  In both stages tasks that were started are run in between, one at a time and in the order
started: the function is applied, and then the milestones of its outcome are reached one by one.
Nothing is said about what the loop does between two milestones; a loop that receives and notices
only between two tasks is one of those described here.

The domain can be given up before that.  What was started and not run is destroyed then, and so is
what is still in the channel, though only when the last sending end is gone as well.
-/

namespace CallbackFerry

/-- How far the host's loop has come. -/
inductive Stage where
  /-- It receives tasks and notices ends. -/
  | selecting
  /-- It only notices ends. -/
  | draining
  /-- It has come to its end. -/
  | done
  /-- It was given up. -/
  | givenUp
  deriving DecidableEq, Repr

/-- What is told when the loop has come to its end. -/
structure HostReport where
  /-- How many tasks were started. -/
  executed : Nat
  /-- How many faults were noticed. -/
  faults : Nat
  deriving DecidableEq, Repr

/-- A task whose function has ended. -/
structure Body (ι ρ : Type) where
  /-- The task. -/
  task : ι
  /-- What its function came to. -/
  outcome : Except Fault ρ
  /-- How many milestones it has reached. -/
  reached : Nat := 0

/-- The host's domain and the handoffs of all tasks there are. -/
structure HostDomain (ι ρ : Type) where
  /-- How many sending ends there are. -/
  handles : Nat := 1
  /-- The tasks that were given to the domain, the last one first. -/
  offered : List ι := []
  /-- The loop. -/
  loop : HostLoop ι := {}
  /-- How far it has come. -/
  stage : Stage := .selecting
  /-- The task that is being run. -/
  body : Option (Body ι ρ) := none
  /-- The tasks that are being destroyed. -/
  lost : List ι := []
  /-- The handoffs of the tasks. -/
  handoffs : ι → Handoff ρ := fun _ => {}
  /-- The counters. -/
  metrics : Metrics := {}

namespace HostDomain

variable {ι π ω ρ : Type} [DecidableEq ι]

/-- The domain with another handoff of a task. -/
def put (task : ι) (handoff : Handoff ρ) (domain : HostDomain ι ρ) : HostDomain ι ρ :=
  { domain with handoffs := fun other => if other = task then handoff else domain.handoffs other }

/-- The domain after something has happened to the handoff of a task, if that can happen to it. -/
def touch (task : ι) (act : Handoff.Act ρ) (domain : HostDomain ι ρ) : Option (HostDomain ι ρ) :=
  ((domain.handoffs task).step act).map fun handoff => domain.put task handoff

/-! ### Sending ends -/

/-- Destroys what is in the channel when nobody can receive or send any more. -/
def sweep (domain : HostDomain ι ρ) : HostDomain ι ρ :=
  if domain.stage = .givenUp ∧ domain.handles = 0 then
    { domain with
      lost := domain.lost ++ domain.loop.arrived
      loop := { domain.loop with arrived := [] } }
  else domain

/-- Somebody who holds a sending end makes another one. -/
def clone (domain : HostDomain ι ρ) : Option (HostDomain ι ρ) :=
  if domain.handles = 0 then none else some { domain with handles := domain.handles + 1 }

/-- A sending end is dropped.  The last one closes the channel. -/
def release (domain : HostDomain ι ρ) : Option (HostDomain ι ρ) :=
  if domain.handles = 0 then none
  else if domain.handles = 1 then
    some { domain with handles := 0, loop := domain.loop.close }.sweep
  else some { domain with handles := domain.handles - 1 }

/-- Somebody who holds a sending end closes the channel. -/
def close (domain : HostDomain ι ρ) : Option (HostDomain ι ρ) :=
  if domain.handles = 0 then none else some { domain with loop := domain.loop.close }

/-- Somebody who holds a sending end gives a task away.  A task that is refused is dropped. -/
def schedule (task : ι) (domain : HostDomain ι ρ) : Option (HostDomain ι ρ) :=
  if domain.handles = 0 ∨ task ∈ domain.offered then none
  else
    let given := { domain with offered := task :: domain.offered }
    match domain.loop.schedule task with
    | some loop => some { given with loop := loop }
    | none => given.touch task .drop

/-! ### The loop -/

/-- The loop receives a task and starts it. -/
def receive (domain : HostDomain ι ρ) : Option (HostDomain ι ρ) :=
  if domain.stage = .selecting then
    domain.loop.receive.map fun loop => { domain with loop := loop }
  else none

/-- The loop finds its channel closed and empty. -/
def drain (domain : HostDomain ι ρ) : Option (HostDomain ι ρ) :=
  if domain.stage = .selecting ∧ domain.loop.closed ∧ domain.loop.arrived.isEmpty then
    some { domain with stage := .draining }
  else none

/-- The function of the task that is next is applied, in a world of the host's choice. -/
def begin (tasks : ι → Callback π ω ρ) (world : ω) (domain : HostDomain ι ρ) :
    Option (HostDomain ι ρ) :=
  match domain.body, domain.loop.next? with
  | none, some task =>
    let work := (tasks task).invoke world
    some
      { domain with
        body := some { task := task, outcome := work.outcome }
        metrics := domain.metrics.recordRoutingErrors work.misrouted }
  | _, _ => none

/-- The task that is being run reaches its next milestone.  It is gone after the last one, and with
it the host's half of its handoff. -/
def advance (timing : Timing) (domain : HostDomain ι ρ) : Option (HostDomain ι ρ) :=
  match domain.body with
  | some body =>
    let next := { domain with body := some { body with reached := body.reached + 1 } }
    match (milestones body.outcome)[body.reached]? with
    | some (.counted success) =>
      some
        { next with
          metrics := domain.metrics.recordExecutedAt timing.finished timing.latency success }
    | some (.released completion) =>
      ((domain.handoffs body.task).complete completion).map fun handoff =>
        next.put body.task handoff
    | some (.ended fault) =>
      match domain.loop.ran fault with
      | some loop => { domain with body := none, loop := loop }.touch body.task .drop
      | none => none
    | none => none
  | none => none

/-- The loop notices that one of its tasks has ended. -/
def notice (index : Nat) (domain : HostDomain ι ρ) : Option (HostDomain ι ρ) :=
  (domain.loop.notice index).map fun loop => { domain with loop := loop }

/-- The loop comes to its end when there is nothing left to notice. -/
def finish (domain : HostDomain ι ρ) : Option (HostDomain ι ρ) :=
  if domain.stage = .draining then
    domain.loop.finish.map fun loop => { domain with loop := loop, stage := .done }
  else none

/-- What is told once the loop has come to its end. -/
def report? (domain : HostDomain ι ρ) : Option HostReport :=
  if domain.stage = .done then some ⟨domain.loop.executed, domain.loop.faults⟩ else none

/-! ### Giving up -/

/-- The domain is given up: nobody will receive or run anything any more. -/
def giveUp (domain : HostDomain ι ρ) : Option (HostDomain ι ρ) :=
  if domain.loop.isOver = false ∧ domain.body.isNone then
    let (started, loop) := domain.loop.giveUp
    some { domain with loop := loop, stage := .givenUp, lost := started }.sweep
  else none

/-- A task that was lost is destroyed, and with it the host's half of its handoff. -/
def discard (domain : HostDomain ι ρ) : Option (HostDomain ι ρ) :=
  match domain.lost with
  | task :: rest => { domain with lost := rest }.touch task .drop
  | [] => none

/-! ### Any move -/

/-- A move of anybody. -/
inductive Move (ι ω ρ : Type) where
  | clone
  | release
  | close
  | schedule (task : ι)
  /-- The driver of a task goes on. -/
  | drive (task : ι) (act : Handoff.Act ρ)
  | receive
  | drain
  | begin (world : ω)
  | advance (timing : Timing)
  | notice (index : Nat)
  | finish
  | giveUp
  | discard

/-- The domain after a move, if the move is possible. -/
def step (tasks : ι → Callback π ω ρ) (domain : HostDomain ι ρ) :
    Move ι ω ρ → Option (HostDomain ι ρ)
  | .clone => domain.clone
  | .release => domain.release
  | .close => domain.close
  | .schedule task => domain.schedule task
  | .drive task act => if act.isDrivers then domain.touch task act else none
  | .receive => domain.receive
  | .drain => domain.drain
  | .begin world => domain.begin tasks world
  | .advance timing => domain.advance timing
  | .notice index => domain.notice index
  | .finish => domain.finish
  | .giveUp => domain.giveUp
  | .discard => domain.discard

end HostDomain
end CallbackFerry
