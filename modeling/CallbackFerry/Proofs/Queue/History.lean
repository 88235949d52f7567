import CallbackFerry.Proofs.Run
import CallbackFerry.Queue

/-!
# The history of a queue

Any number of threads push, pop, ask for more and abort, in any order; each of these is one step
under the lock of the queue, so what they do together is a `Run` of `Queue.step`.

`step_account` says what one step does to the units: what it hands out and then what is queued is
what was queued and then what it accepts.  Summed up over a run this is `account`: no unit is
lost, doubled or overtaken.  With the laws of the two flags it makes up `Lawful`, which
`lawful_of_run` proves of every run.
-/

namespace CallbackFerry.Queue

variable {τ : Type}

/-! ### Operations -/

/-- What a thread can do at a queue. -/
inductive Operation (τ : Type) where
  /-- Appends a unit. -/
  | push (unit : τ)
  /-- Takes the oldest unit if there is one. -/
  | pop
  /-- Asks for more. -/
  | next
  /-- Asks the dispatcher to stop. -/
  | abort
  deriving DecidableEq

/-- The queue after an operation.  Asking for more is not possible where it would have to wait. -/
def step (queue : Queue τ) : Operation τ → Option (Queue τ)
  | .push unit => some (queue.push unit).2
  | .pop => some queue.pop.2
  | .next => queue.next?.map (·.2)
  | .abort => some queue.abort

/-- The unit that was accepted in a moment, if one was. -/
def accepted (moment : Moment (Queue τ) (Operation τ)) : Option τ :=
  match moment.move with
  | .push unit =>
    match (moment.before.push unit).1 with
    | .ok () => some unit
    | .error _ => none
  | _ => none

/-- The answer to whoever asked for more in a moment. -/
def told (moment : Moment (Queue τ) (Operation τ)) : Option (Next τ) :=
  match moment.move with
  | .next => moment.before.next?.map (·.1)
  | _ => none

/-- The unit that was handed out in a moment, if one was. -/
def handedOut (moment : Moment (Queue τ) (Operation τ)) : Option τ :=
  match moment.move with
  | .pop => moment.before.pop.1
  | .next =>
    match told moment with
    | some (.unit unit) => some unit
    | _ => none
  | _ => none

/-! ### Single operations -/

theorem push_of_open {queue : Queue τ} (h : queue.closed = false) (unit : τ) :
    queue.push unit = (.ok (), { queue with pending := queue.pending ++ [unit] }) := by
  simp [push, h]

theorem push_of_closed {queue : Queue τ} (h : queue.closed = true) (unit : τ) :
    queue.push unit = (.error unit, queue) := by
  simp [push, h]

/-- A push is refused by a closed queue and by no other; the unit comes back, and nothing
changes. -/
theorem push_eq_error_iff {queue after : Queue τ} {unit back : τ} :
    queue.push unit = (.error back, after) ↔
      queue.closed = true ∧ back = unit ∧ after = queue := by
  cases h : queue.closed with
  | false => simp [push_of_open h]
  | true =>
    rw [push_of_closed h]
    constructor
    · rintro ⟨⟩
      exact ⟨rfl, rfl, rfl⟩
    · rintro ⟨-, rfl, rfl⟩
      rfl

/-- Whoever asks for more gets the oldest unit. -/
theorem next?_of_cons {queue : Queue τ} {oldest : τ} {rest : List τ}
    (h : queue.pending = oldest :: rest) :
    queue.next? = some (.unit oldest, { queue with pending := rest }) := by
  simp [next?, h]

/-- The answer is to stop exactly if the queue is aborted and drained, and that closes it. -/
theorem next?_eq_stop_iff {queue after : Queue τ} :
    queue.next? = some (.stop, after) ↔
      queue.pending = [] ∧ queue.aborted = true ∧ after = { queue with closed := true } := by
  cases hp : queue.pending with
  | nil => cases ha : queue.aborted <;> simp [next?, hp, ha, eq_comm (a := after)]
  | cons oldest rest => simp [next?_of_cons hp]

/-- The ways in which asking for more can be answered. -/
theorem next?_cases {queue after : Queue τ} {answer : Next τ}
    (h : queue.next? = some (answer, after)) :
    (∃ oldest rest, queue.pending = oldest :: rest ∧ answer = .unit oldest ∧
        after = { queue with pending := rest }) ∨
      (queue.pending = [] ∧ queue.aborted = true ∧ answer = .stop ∧
        after = { queue with closed := true }) := by
  cases hp : queue.pending with
  | nil =>
    cases answer with
    | unit oldest => cases ha : queue.aborted <;> simp [next?, hp, ha] at h
    | stop =>
      obtain ⟨-, ha, rfl⟩ := next?_eq_stop_iff.mp h
      exact .inr ⟨rfl, ha, rfl, by rw [hp]⟩
  | cons oldest rest =>
    rw [next?_of_cons hp] at h
    cases h
    exact .inl ⟨oldest, rest, rfl, rfl, rfl⟩

/-! ### Steps and runs -/

variable {queue now after : Queue τ} {operation : Operation τ}
  {past : List (Moment (Queue τ) (Operation τ))}

/-- One step hands out from the front of what is queued and appends what it accepts. -/
theorem step_account (made : queue.step operation = some after) :
    (handedOut ⟨queue, operation⟩).toList ++ after.pending
      = queue.pending ++ (accepted ⟨queue, operation⟩).toList := by
  cases operation with
  | push unit =>
    obtain rfl := Option.some.inj made
    cases h : queue.closed with
    | false => simp [handedOut, accepted, push_of_open h]
    | true => simp [handedOut, accepted, push_of_closed h]
  | pop =>
    obtain rfl := Option.some.inj made
    cases h : queue.pending <;> simp [handedOut, accepted, pop, h]
  | next =>
    obtain ⟨⟨answer, next⟩, asked, rfl⟩ := Option.map_eq_some_iff.mp made
    obtain ⟨oldest, rest, h, rfl, rfl⟩ | ⟨h, -, rfl, rfl⟩ := next?_cases asked
    · simp [handedOut, told, accepted, asked, h]
    · simp [handedOut, told, accepted, asked, h]
  | abort =>
    obtain rfl := Option.some.inj made
    simp [handedOut, accepted, abort]

/-- The units handed out and then those still queued are the units accepted, in that order. -/
theorem account (run : Run step ({} : Queue τ) past now) :
    past.filterMap handedOut ++ now.pending = past.filterMap accepted := by
  induction run with
  | start => rfl
  | next run made ih =>
    rw [Run.filterMap_concat, Run.filterMap_concat, List.append_assoc, step_account made,
      ← List.append_assoc, ih]

/-- No step takes a flag back. -/
theorem step_flags (made : queue.step operation = some after) :
    (queue.aborted = true → after.aborted = true) ∧
      (queue.closed = true → after.closed = true) := by
  cases operation with
  | push unit =>
    obtain rfl := Option.some.inj made
    cases h : queue.closed with
    | false => simp [push_of_open h, h]
    | true => simp [push_of_closed h, h]
  | pop =>
    obtain rfl := Option.some.inj made
    cases h : queue.pending <;> simp [pop, h]
  | next =>
    obtain ⟨⟨answer, next⟩, asked, rfl⟩ := Option.map_eq_some_iff.mp made
    obtain ⟨oldest, rest, -, -, rfl⟩ | ⟨-, h, -, rfl⟩ := next?_cases asked
    · exact ⟨id, id⟩
    · exact ⟨fun _ => h, fun _ => rfl⟩
  | abort =>
    obtain rfl := Option.some.inj made
    exact ⟨fun _ => rfl, id⟩

/-- The only step that closes a queue: it is aborted and empty, is asked for more, and the answer
is to stop. -/
theorem step_closes (made : queue.step operation = some after) (opened : queue.closed = false)
    (closed : after.closed = true) :
    operation = .next ∧ queue.aborted = true ∧ queue.pending = [] ∧
      queue.next? = some (.stop, after) := by
  cases operation with
  | push unit =>
    obtain rfl := Option.some.inj made
    simp [push_of_open opened, opened] at closed
  | pop =>
    obtain rfl := Option.some.inj made
    cases h : queue.pending <;> simp [pop, h, opened] at closed
  | next =>
    obtain ⟨⟨answer, next⟩, asked, rfl⟩ := Option.map_eq_some_iff.mp made
    obtain ⟨oldest, rest, -, -, rfl⟩ | ⟨hp, ha, rfl, rfl⟩ := next?_cases asked
    · simp [opened] at closed
    · exact ⟨rfl, ha, hp, asked⟩
  | abort =>
    obtain rfl := Option.some.inj made
    simp [abort, opened] at closed

/-- Whether a closed queue is aborted and drained. -/
def Drained (queue : Queue τ) : Prop :=
  queue.closed = true → queue.aborted = true ∧ queue.pending = []

theorem Drained.step (made : queue.step operation = some after) (h : queue.Drained) :
    after.Drained := by
  intro closed
  cases opened : queue.closed with
  | false =>
    obtain ⟨rfl, ha, hp, asked⟩ := step_closes made opened closed
    obtain ⟨-, -, rfl⟩ := next?_eq_stop_iff.mp asked
    exact ⟨ha, hp⟩
  | true =>
    obtain ⟨ha, hp⟩ := h opened
    refine ⟨(step_flags made).1 ha, ?_⟩
    -- A closed queue accepts nothing, so the account of the step leaves it empty.
    have units := step_account made
    have nothing : accepted ⟨queue, operation⟩ = none := by
      cases operation with
      | push unit => simp [accepted, push_of_closed opened]
      | _ => rfl
    rw [nothing, hp] at units
    simpa using (List.append_eq_nil_iff.mp units).2

/-- Whoever asks a closed queue for more is told to stop, and nothing changes. -/
theorem Drained.next? (h : queue.Drained) (closed : queue.closed = true) :
    queue.next? = some (.stop, queue) := by
  obtain ⟨ha, hp⟩ := h closed
  refine next?_eq_stop_iff.mpr ⟨hp, ha, ?_⟩
  cases queue
  simp_all

/-! ### The law -/

/-- What holds of a queue that was empty and open at first, now and in what has happened. -/
structure Lawful (past : List (Moment (Queue τ) (Operation τ))) (now : Queue τ) : Prop where
  /-- What was handed out and then what is still queued is what was accepted, in order. -/
  account : past.filterMap handedOut ++ now.pending = past.filterMap accepted
  /-- A push is refused exactly if the queue is closed; the unit comes back, nothing changes. -/
  refuses : ∀ unit back after,
    now.push unit = (.error back, after) ↔ now.closed = true ∧ back = unit ∧ after = now
  /-- A closed queue is aborted and empty. -/
  drained : now.closed = true → now.aborted = true ∧ now.pending = []
  /-- Only asking for more closes a queue, one that is aborted and empty, and the answer is to
  stop. -/
  closes : ∀ operation after, now.step operation = some after → now.closed = false →
    after.closed = true → operation = .next ∧ now.aborted = true ∧ now.pending = [] ∧
      now.next? = some (.stop, after)
  /-- An abort and a closing last, and a closed queue tells everybody to stop. -/
  lasts : ∀ later future, Run step now later future →
    (now.aborted = true → future.aborted = true) ∧
      (now.closed = true → future.closed = true ∧ future.next? = some (.stop, future))
  /-- When somebody is told to stop, all units that are ever accepted have been handed out. -/
  stops : ∀ earlier moment later, past = earlier ++ moment :: later → told moment = some .stop →
    earlier.filterMap handedOut = past.filterMap accepted

/-- After a closing nothing is accepted. -/
theorem accepted_of_closed (run : Run step now past after) (closed : now.closed = true) :
    past.filterMap accepted = [] := by
  rw [List.filterMap_eq_nil_iff]
  intro moment h
  obtain ⟨earlier, later, next, rfl, upTo, -, -⟩ := run.of_mem h
  have closed : moment.before.closed = true :=
    upTo.preserves (P := fun queue => queue.closed = true)
      (fun _ _ _ made => (step_flags made).2) closed
  unfold accepted
  split
  · rw [push_of_closed closed]
  · rfl

/-- Every run of an empty queue is lawful. -/
theorem lawful_of_run (run : Run step ({} : Queue τ) past now) : Lawful past now where
  account := account run
  refuses _ _ _ := push_eq_error_iff
  drained := run.preserves (fun _ _ _ made => Drained.step made) (by simp [Drained])
  closes _ _ made opened closed := step_closes made opened closed
  lasts later future onward := by
    have drained : future.Drained :=
      (run.append onward).preserves (fun _ _ _ made => Drained.step made) (by simp [Drained])
    have aborts := onward.preserves (P := fun queue => now.aborted = true → queue.aborted = true)
      (fun _ _ _ made h ha => (step_flags made).1 (h ha)) id
    have closes := onward.preserves (P := fun queue => now.closed = true → queue.closed = true)
      (fun _ _ _ made h hc => (step_flags made).2 (h hc)) id
    exact ⟨aborts, fun closed => ⟨closes closed, drained.next? (closes closed)⟩⟩
  stops earlier moment later := by
    rintro rfl stop
    obtain ⟨middle, upTo, onward⟩ := run.of_append
    obtain ⟨rfl, after, made, onward⟩ := onward.of_cons
    obtain ⟨before, operation⟩ := moment
    cases operation with
    | next =>
      obtain ⟨⟨answer, next⟩, asked, rfl⟩ := Option.map_eq_some_iff.mp stop
      obtain ⟨hp, -, rfl⟩ := next?_eq_stop_iff.mp asked
      -- The queue was empty then and has been closed since: nothing was left, nothing came later.
      obtain rfl : after = _ := by simpa [step, asked, eq_comm] using made
      have soFar := account upTo
      rw [hp, List.append_nil] at soFar
      rw [List.filterMap_append, List.filterMap_cons, accepted_of_closed onward rfl, soFar]
      simp [accepted]
    | _ => simp [told] at stop

/-- A unit that is pushed after the abort is handed out before the queue closes, and one that is
pushed after the closing is refused. -/
theorem lawful_around_abort : ∃ past,
    Run step ({} : Queue Nat) past { aborted := true, closed := true } ∧
      past.filterMap handedOut = [1, 2] ∧ past.filterMap accepted = [1, 2] ∧
      Lawful past { aborted := true, closed := true } := by
  have run := Run.of_moves step ({} : Queue Nat)
    [.push 1, .abort, .push 2, .next, .pop, .next, .push 3]
  exact ⟨_, run, rfl, rfl, lawful_of_run run⟩

end CallbackFerry.Queue
