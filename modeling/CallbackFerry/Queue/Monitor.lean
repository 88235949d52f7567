import CallbackFerry.Queue

/-!
# Waiting at the queue

Whoever asks for more and gets no answer falls asleep at the queue.  A push wakes one sleeper, an
abort wakes all of them, and a sleeper may stir for no reason.  One who was woken looks again when
its turn comes: there may be an answer now, or somebody else was quicker, and it falls asleep again.

Each move is one step under the lock of the queue.  Which sleeper a push wakes, and in which order
those who were woken look again, is left to whoever makes the moves.
-/

namespace CallbackFerry

/-- A queue and those who wait at it. -/
structure Monitor (τ : Type) where
  /-- The queue. -/
  queue : Queue τ := {}
  /-- Who is asleep, the longest sleeper first. -/
  asleep : List Nat := []
  /-- Who was woken and has not looked again. -/
  woken : List Nat := []
  deriving DecidableEq, Repr, Inhabited

namespace Monitor

variable {τ : Type}

/-! ### Waking -/

/-- Wakes one sleeper. -/
def wake (who : Nat) (monitor : Monitor τ) : Monitor τ :=
  { monitor with asleep := monitor.asleep.erase who, woken := monitor.woken ++ [who] }

/-- Wakes one sleeper if there is any: the favourite if it is asleep, else the longest sleeper. -/
def wakeOne (favourite : Nat) (monitor : Monitor τ) : Monitor τ :=
  if favourite ∈ monitor.asleep then monitor.wake favourite
  else
    match monitor.asleep with
    | longest :: _ => monitor.wake longest
    | [] => monitor

/-- Wakes all sleepers. -/
def wakeAll (monitor : Monitor τ) : Monitor τ :=
  { monitor with asleep := [], woken := monitor.woken ++ monitor.asleep }

/-! ### At the queue -/

/-- Appends a unit and wakes one sleeper; a closed queue hands the unit back and wakes nobody. -/
def push (next : τ) (favourite : Nat) (monitor : Monitor τ) : Except τ Unit × Monitor τ :=
  match monitor.queue.push next with
  | (.ok (), queue) => (.ok (), { monitor with queue := queue }.wakeOne favourite)
  | (.error back, queue) => (.error back, { monitor with queue := queue })

/-- Takes the oldest unit, if there is one, without waiting. -/
def pop (monitor : Monitor τ) : Option τ × Monitor τ :=
  let (oldest, queue) := monitor.queue.pop
  (oldest, { monitor with queue := queue })

/-- Asks the queue for an answer, and falls asleep if there is none. -/
def look (who : Nat) (monitor : Monitor τ) : Option (Next τ) × Monitor τ :=
  match monitor.queue.next? with
  | some (answer, queue) => (some answer, { monitor with queue := queue })
  | none => (none, { monitor with asleep := monitor.asleep ++ [who] })

/-- Somebody who is not waiting asks for more. -/
def ask (who : Nat) (monitor : Monitor τ) : Option (Option (Next τ) × Monitor τ) :=
  if who ∈ monitor.asleep ∨ who ∈ monitor.woken then none else some (monitor.look who)

/-- One who was woken looks again. -/
def resume (who : Nat) (monitor : Monitor τ) : Option (Option (Next τ) × Monitor τ) :=
  if who ∈ monitor.woken then
    some ({ monitor with woken := monitor.woken.erase who }.look who)
  else none

/-- A sleeper wakes for no reason. -/
def stir (who : Nat) (monitor : Monitor τ) : Option (Monitor τ) :=
  if who ∈ monitor.asleep then some (monitor.wake who) else none

/-- Asks the queue to stop and wakes all sleepers. -/
def abort (monitor : Monitor τ) : Monitor τ :=
  { monitor with queue := monitor.queue.abort }.wakeAll

/-! ### Any move -/

/-- A move of anybody. -/
inductive Move (τ : Type) where
  | push (next : τ) (favourite : Nat)
  | pop
  | ask (who : Nat)
  | resume (who : Nat)
  | stir (who : Nat)
  | abort
  deriving DecidableEq, Repr

/-- The monitor after a move, if the move is possible. -/
def step (monitor : Monitor τ) : Move τ → Option (Monitor τ)
  | .push next favourite => some (monitor.push next favourite).2
  | .pop => some monitor.pop.2
  | .ask who => (monitor.ask who).map (·.2)
  | .resume who => (monitor.resume who).map (·.2)
  | .stir who => monitor.stir who
  | .abort => some monitor.abort

/-- The monitor after a list of moves; one that is not possible changes nothing. -/
def play (monitor : Monitor τ) (moves : List (Move τ)) : Monitor τ :=
  moves.foldl (fun monitor move => (monitor.step move).getD monitor) monitor

end Monitor
end CallbackFerry
