import CallbackFerry.Journal

/-!
# The queue of pending callbacks

Drivers append to the queue, the dispatcher takes from its front.  Aborting asks the dispatcher to
stop, yet what is queued is still handed out, also what is appended after the abort.  Only when the
dispatcher asks for more and finds the queue aborted and empty does the queue close, and from then
on it refuses to grow.
-/

namespace CallbackFerry

/-- A queue of units. -/
structure Queue (τ : Type) where
  /-- What is queued, oldest first. -/
  pending : List τ := []
  /-- Whether the dispatcher was asked to stop. -/
  aborted : Bool := false
  /-- Whether the queue refuses to grow. -/
  closed : Bool := false
  deriving DecidableEq, Repr, Inhabited

/-- What the dispatcher is told when it asks for more. -/
inductive Next (τ : Type) where
  /-- The oldest unit. -/
  | unit (next : τ)
  /-- There is no more and there will be no more. -/
  | stop
  deriving DecidableEq, Repr

namespace Queue

variable {τ : Type}

/-- Appends a unit; a closed queue hands it back. -/
def push (next : τ) (queue : Queue τ) : Except τ Unit × Queue τ :=
  if queue.closed then (.error next, queue)
  else (.ok (), { queue with pending := queue.pending ++ [next] })

/-- Takes the oldest unit, if there is one. -/
def pop (queue : Queue τ) : Option τ × Queue τ :=
  match queue.pending with
  | oldest :: rest => (some oldest, { queue with pending := rest })
  | [] => (none, queue)

/-- Takes the oldest unit, or closes an aborted queue that is empty.  With nothing queued and no
abort the asker has to wait, and there is no answer yet. -/
def next? (queue : Queue τ) : Option (Next τ × Queue τ) :=
  match queue.pending with
  | oldest :: rest => some (.unit oldest, { queue with pending := rest })
  | [] => if queue.aborted then some (.stop, { queue with closed := true }) else none

/-- Asks the dispatcher to stop. -/
def abort (queue : Queue τ) : Queue τ :=
  { queue with aborted := true }

/-- How many units are queued. -/
def size (queue : Queue τ) : Nat :=
  queue.pending.length

/-- The lines about a unit that was appended, when `depth` units are queued after it. -/
def pushLines (name : String) (depth warnDepth : Nat) : List LogLine :=
  let queued : LogLine :=
    { level := .trace
      component := .queue
      message := "Queueing callback"
      fields := [("unit", name)] }
  let backlog : LogLine :=
    { level := .warn
      component := .queue
      message := "Callback backlog at " ++ toString depth ++ " units (warn threshold "
        ++ toString warnDepth ++ ")" }
  if warnDepth < depth then [queued, backlog] else [queued]

end Queue
end CallbackFerry
