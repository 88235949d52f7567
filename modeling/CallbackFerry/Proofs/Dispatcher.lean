import CallbackFerry.Dispatcher
import CallbackFerry.Proofs.Queue.History

/-!
# The work of the dispatcher

The dispatcher works in rounds: it takes a unit, offers it, and settles.  After the last round it
finds the queue aborted and empty, closes it, and retires.  Meanwhile others push and abort.
`Change` lists all that can be done to it, and `step_change` says that the list is complete.

Two laws hold in all runs.  By the `inventory`, what was offered, what is in the dispatcher's hand
and what is queued make up what was accepted, in this order.  And the dispatcher is `Orderly`: its
phase tells which states it has published, how many rounds it has counted, and whether the queue
is closed.  Together they say what a retired dispatcher leaves behind (`leftBehind_of_stopped`).
-/

namespace CallbackFerry.Dispatcher

variable {τ : Type} {dispatcher now after : Dispatcher τ} {unit : τ}

/-- The unit in the dispatcher's hand: taken from the queue, and the host has not answered. -/
def hand (dispatcher : Dispatcher τ) : List τ :=
  match dispatcher.phase with
  | .offering unit => [unit]
  | _ => []

theorem hand_eq_singleton_iff : dispatcher.hand = [unit] ↔ dispatcher.phase = .offering unit := by
  cases h : dispatcher.phase <;> simp [hand, h]

theorem hand_eq_singleton_of_mem (h : unit ∈ dispatcher.hand) : dispatcher.hand = [unit] := by
  unfold hand at h ⊢
  cases phase : dispatcher.phase <;> simp_all

/-! ### The moves -/

/-- The dispatcher takes the oldest unit, or finds the queue aborted and empty and closes it. -/
theorem take_cases (made : dispatcher.take = some after) :
    dispatcher.phase = .idle ∧
      ((∃ oldest rest, dispatcher.queue.pending = oldest :: rest ∧
          after = { dispatcher with
            queue := { dispatcher.queue with pending := rest }
            phase := .offering oldest
            published := .running :: dispatcher.published }) ∨
        (dispatcher.queue.pending = [] ∧ dispatcher.queue.aborted = true ∧
          after = { dispatcher with
            queue := { dispatcher.queue with closed := true }
            phase := .closing })) := by
  cases idle : dispatcher.phase with
  | idle =>
    refine ⟨rfl, ?_⟩
    cases asked : dispatcher.queue.next? with
    | none => simp [take, idle, asked] at made
    | some told =>
      obtain ⟨answer, queue⟩ := told
      obtain ⟨oldest, rest, h, rfl, rfl⟩ | ⟨h, aborted, rfl, rfl⟩ := Queue.next?_cases asked
      · simp only [take, idle, asked, Option.some.injEq] at made
        exact .inl ⟨oldest, rest, h, made.symm⟩
      · simp only [take, idle, asked, Option.some.injEq] at made
        exact .inr ⟨h, aborted, made.symm⟩
  | _ => simp [take, idle] at made

theorem offer_eq_some_iff :
    dispatcher.offer = some (unit, after) ↔ dispatcher.phase = .offering unit ∧
      after = { dispatcher with phase := .settling, offered := unit :: dispatcher.offered } := by
  cases h : dispatcher.phase with
  | offering held =>
    simp only [offer, h, Option.some.injEq, Prod.mk.injEq, DispatcherPhase.offering.injEq]
    constructor
    · rintro ⟨rfl, rfl⟩
      exact ⟨rfl, rfl⟩
    · rintro ⟨rfl, rfl⟩
      exact ⟨rfl, rfl⟩
  | _ => simp [offer, h]

theorem settle_eq_some_iff :
    dispatcher.settle = some after ↔ dispatcher.phase = .settling ∧
      after = { dispatcher with
        phase := .idle
        dispatched := dispatcher.dispatched + 1
        published := .waiting :: dispatcher.published } := by
  cases h : dispatcher.phase <;> simp [settle, h, eq_comm]

theorem retire_eq_some_iff :
    dispatcher.retire = some after ↔ dispatcher.phase = .closing ∧
      after = { dispatcher with
        phase := .retired
        published := .stopped :: dispatcher.published } := by
  cases h : dispatcher.phase <;> simp [retire, h, eq_comm]

/-! ### Operations -/

/-- What can be done to a dispatcher and its queue. -/
inductive Operation (τ : Type) where
  /-- A driver appends a unit to the queue. -/
  | push (unit : τ)
  /-- Somebody asks the dispatcher to stop. -/
  | abort
  /-- The dispatcher asks the queue for more. -/
  | take
  /-- The host answers an offer. -/
  | offer
  /-- The dispatcher counts what it offered. -/
  | settle
  /-- The dispatcher retires. -/
  | retire
  deriving DecidableEq

/-- The dispatcher after an operation, if the operation is possible. -/
def step (dispatcher : Dispatcher τ) : Operation τ → Option (Dispatcher τ)
  | .push unit => some { dispatcher with queue := (dispatcher.queue.push unit).2 }
  | .abort => some dispatcher.abort
  | .take => dispatcher.take
  | .offer => dispatcher.offer.map (·.2)
  | .settle => dispatcher.settle
  | .retire => dispatcher.retire

variable {operation : Operation τ} {past : List (Moment (Dispatcher τ) (Operation τ))}

/-- The unit that the queue accepted in a moment, if it accepted one. -/
def accepted (moment : Moment (Dispatcher τ) (Operation τ)) : Option τ :=
  match moment.move with
  | .push unit => Queue.accepted ⟨moment.before.queue, .push unit⟩
  | _ => none

/-- The unit that the host answered in a moment, if it answered. -/
def scheduled (moment : Moment (Dispatcher τ) (Operation τ)) : Option τ :=
  match moment.move with
  | .offer => moment.before.hand.head?
  | _ => none

/-- What an operation can do to a dispatcher. -/
inductive Change (dispatcher : Dispatcher τ) : Operation τ → Dispatcher τ → Prop
  /-- The queue gets a unit, and keeps it or hands it back. -/
  | pushed (unit : τ) :
      Change dispatcher (.push unit) { dispatcher with queue := (dispatcher.queue.push unit).2 }
  /-- The queue is aborted. -/
  | aborted : Change dispatcher .abort dispatcher.abort
  /-- The oldest unit is taken. -/
  | taken {oldest : τ} {rest : List τ} (idle : dispatcher.phase = .idle)
      (queued : dispatcher.queue.pending = oldest :: rest) :
      Change dispatcher .take { dispatcher with
        queue := { dispatcher.queue with pending := rest }
        phase := .offering oldest
        published := .running :: dispatcher.published }
  /-- The queue is closed. -/
  | closed (idle : dispatcher.phase = .idle) (empty : dispatcher.queue.pending = [])
      (aborted : dispatcher.queue.aborted = true) :
      Change dispatcher .take { dispatcher with
        queue := { dispatcher.queue with closed := true }
        phase := .closing }
  /-- The unit in hand is offered, and the host answers. -/
  | offered {unit : τ} (offering : dispatcher.phase = .offering unit) :
      Change dispatcher .offer { dispatcher with
        phase := .settling
        offered := unit :: dispatcher.offered }
  /-- The unit is counted. -/
  | settled (settling : dispatcher.phase = .settling) :
      Change dispatcher .settle { dispatcher with
        phase := .idle
        dispatched := dispatcher.dispatched + 1
        published := .waiting :: dispatcher.published }
  /-- The dispatcher retires. -/
  | retired (closing : dispatcher.phase = .closing) :
      Change dispatcher .retire { dispatcher with
        phase := .retired
        published := .stopped :: dispatcher.published }

theorem step_change (made : dispatcher.step operation = some after) :
    Change dispatcher operation after := by
  cases operation with
  | push unit =>
    obtain rfl := Option.some.inj made
    exact .pushed unit
  | abort =>
    obtain rfl := Option.some.inj made
    exact .aborted
  | take =>
    obtain ⟨idle, ⟨oldest, rest, queued, rfl⟩ | ⟨empty, aborted, rfl⟩⟩ := take_cases made
    · exact .taken idle queued
    · exact .closed idle empty aborted
  | offer =>
    obtain ⟨⟨unit, answered⟩, offered, rfl⟩ := Option.map_eq_some_iff.mp made
    obtain ⟨offering, rfl⟩ := offer_eq_some_iff.mp offered
    exact .offered offering
  | settle =>
    obtain ⟨settling, rfl⟩ := settle_eq_some_iff.mp made
    exact .settled settling
  | retire =>
    obtain ⟨closing, rfl⟩ := retire_eq_some_iff.mp made
    exact .retired closing

/-! ### The queue -/

/-- What an operation is to the queue. -/
def errand (_ : Dispatcher τ) : Operation τ → Option (Queue.Operation τ)
  | .push unit => some (.push unit)
  | .abort => some .abort
  | .take => some .next
  | _ => none

/-- The queue sees an operation as one of its own, or sees nothing of it. -/
theorem step_errand (made : dispatcher.step operation = some after) :
    Follows Queue.step dispatcher.queue (dispatcher.errand operation) after.queue := by
  cases step_change made with
  | taken idle queued => exact congrArg (Option.map (·.2)) (Queue.next?_of_cons queued)
  | closed idle empty aborted =>
    exact congrArg (Option.map (·.2)) (Queue.next?_eq_stop_iff.mpr ⟨empty, aborted, rfl⟩)
  | _ => rfl

/-- A run of the dispatcher is a run of its queue. -/
theorem queue_run {start : Dispatcher τ} (run : Run step start past now) :
    Run Queue.step start.queue (past.filterMap (Moment.seen queue errand)) now.queue :=
  run.seen fun _ _ _ made => step_errand made

/-! ### Inventory -/

/-- A unit passes from the queue to the hand and from there to those offered, and none is lost on
the way. -/
theorem step_inventory (made : dispatcher.step operation = some after) :
    after.offered.reverse ++ after.hand ++ after.queue.pending
      = dispatcher.offered.reverse ++ dispatcher.hand ++ dispatcher.queue.pending
        ++ (accepted ⟨dispatcher, operation⟩).toList := by
  cases step_change made with
  | pushed unit =>
    -- To the queue this is a push, and a push hands nothing out.
    have units := Queue.step_account (show dispatcher.queue.step (.push unit) = some _ from rfl)
    simp only [Queue.handedOut, Option.toList_none, List.nil_append] at units
    show dispatcher.offered.reverse ++ dispatcher.hand ++ (dispatcher.queue.push unit).2.pending = _
    rw [units, accepted, ← List.append_assoc]
  | aborted => simp [accepted, abort, Queue.abort, hand]
  | taken idle queued => simp [accepted, hand, idle, queued]
  | closed idle empty => simp [accepted, hand, idle, empty]
  | offered offering => simp [accepted, hand, offering]
  | settled settling => simp [accepted, hand, settling]
  | retired closing => simp [accepted, hand, closing]

/-- The units offered, then the one in hand, then those queued are the units accepted. -/
theorem inventory (run : Run step {} past now) :
    now.offered.reverse ++ now.hand ++ now.queue.pending = past.filterMap accepted := by
  induction run with
  | start => rfl
  | next run made ih => rw [Run.filterMap_concat, step_inventory made, ih]

/-- The units that the host answered are those that the dispatcher has noted as offered. -/
theorem scheduled_eq_offered (run : Run step {} past now) :
    past.filterMap scheduled = now.offered.reverse := by
  induction run with
  | start => rfl
  | next run made ih =>
    rw [Run.filterMap_concat, ih]
    cases step_change made with
    | offered offering => simp [scheduled, hand, offering]
    | _ => simp [scheduled, abort]

/-! ### Order -/

/-- The states published in so many rounds, newest first. -/
def rounds : Nat → List DispatcherState
  | 0 => [.waiting]
  | n + 1 => .waiting :: .running :: rounds n

/-- The states published by a dispatcher that has counted so many rounds, newest first. -/
def shown (dispatched : Nat) : DispatcherPhase τ → List DispatcherState
  | .idle | .closing => rounds dispatched
  | .offering _ | .settling => .running :: rounds dispatched
  | .retired => .stopped :: rounds dispatched

/-- How many offers were answered and not counted yet. -/
def uncounted : DispatcherPhase τ → Nat
  | .settling => 1
  | _ => 0

/-- Whether the dispatcher has closed the queue. -/
def hasClosed : DispatcherPhase τ → Bool
  | .closing | .retired => true
  | _ => false

/-- What the phase of a dispatcher tells about it. -/
structure Orderly (dispatcher : Dispatcher τ) : Prop where
  /-- It has published what belongs to its phase. -/
  published : dispatcher.published = shown dispatcher.dispatched dispatcher.phase
  /-- It has counted what it has offered, except for an answer that it has just got. -/
  counted : dispatcher.offered.length = dispatcher.dispatched + uncounted dispatcher.phase
  /-- The queue is closed in the last two phases. -/
  closed : dispatcher.queue.closed = hasClosed dispatcher.phase

/-- No operation brings a dispatcher out of order. -/
theorem Orderly.step (made : dispatcher.step operation = some after) (h : dispatcher.Orderly) :
    after.Orderly := by
  obtain ⟨published, counted, closed⟩ := h
  cases step_change made with
  | pushed unit =>
    refine ⟨published, counted, ?_⟩
    show (dispatcher.queue.push unit).2.closed = hasClosed dispatcher.phase
    rw [← closed]
    unfold Queue.push
    split <;> rfl
  | aborted => exact ⟨published, counted, closed⟩
  | taken idle =>
    rw [idle] at published counted closed
    exact ⟨congrArg (.running :: ·) published, counted, closed⟩
  | closed idle =>
    -- Nothing is published when the queue closes; the last state is due when it retires.
    rw [idle] at published counted
    exact ⟨published, counted, rfl⟩
  | offered offering =>
    rw [offering] at published counted closed
    exact ⟨published, congrArg (· + 1) counted, closed⟩
  | settled settling =>
    rw [settling] at published counted closed
    exact ⟨congrArg (.waiting :: ·) published, counted, closed⟩
  | retired closing =>
    rw [closing] at published counted closed
    exact ⟨congrArg (.stopped :: ·) published, counted, closed⟩

/-- A dispatcher is orderly at all times. -/
theorem orderly_of_run (run : Run step {} past now) : now.Orderly :=
  run.preserves (fun _ _ _ made => Orderly.step made) ⟨rfl, rfl, rfl⟩

/-- The words that a dispatcher publishes: it waits, runs and waits any number of times, and then
it stops. -/
def word (n : Nat) : List DispatcherState :=
  .waiting :: (List.replicate n [.running, .waiting]).flatten ++ [.stopped]

theorem reverse_rounds (n : Nat) :
    (rounds n).reverse = .waiting :: (List.replicate n [.running, .waiting]).flatten := by
  induction n with
  | zero => rfl
  | succ n ih =>
    rw [rounds, List.reverse_cons, List.reverse_cons, ih, List.replicate_succ', List.flatten_append]
    simp

/-- What was published is a beginning of a word. -/
theorem Orderly.published_prefix (h : dispatcher.Orderly) :
    ∃ n, dispatcher.published.reverse <+: word n := by
  rw [h.published]
  cases dispatcher.phase with
  | idle | closing =>
    refine ⟨dispatcher.dispatched, [.stopped], ?_⟩
    rw [shown, reverse_rounds, word]
  | offering | settling =>
    refine ⟨dispatcher.dispatched + 1, [.waiting, .stopped], ?_⟩
    rw [shown, List.reverse_cons, reverse_rounds, word, List.replicate_succ', List.flatten_append]
    simp
  | retired =>
    refine ⟨dispatcher.dispatched, [], ?_⟩
    rw [shown, List.reverse_cons, reverse_rounds, word, List.append_nil]

/-- A dispatcher shows that it has stopped if and only if it has retired. -/
theorem Orderly.state_eq_stopped_iff (h : dispatcher.Orderly) :
    dispatcher.state = .stopped ↔ dispatcher.phase = .retired := by
  rw [state, h.published]
  cases dispatcher.phase with
  | idle | closing => cases dispatcher.dispatched <;> simp [shown, rounds]
  | offering | settling | retired => simp [shown]

/-- A queue is closed only when it is aborted and drained. -/
theorem drained_of_run (run : Run step {} past now) : now.queue.Drained :=
  (queue_run run).preserves (fun _ _ _ made => Queue.Drained.step made) (by simp [Queue.Drained])

/-- A retired dispatcher has offered all units that were accepted. -/
theorem leftBehind_of_stopped (run : Run step {} past now) (stopped : now.state = .stopped) :
    now.queue.closed = true ∧ now.queue.pending = [] ∧
      now.offered.reverse = past.filterMap accepted ∧ now.dispatched = now.offered.length := by
  have orderly := orderly_of_run run
  have retired := orderly.state_eq_stopped_iff.mp stopped
  have closed : now.queue.closed = true := by rw [orderly.closed, retired, hasClosed]
  have empty : now.queue.pending = [] := (drained_of_run run closed).2
  refine ⟨closed, empty, ?_, ?_⟩
  · rw [← inventory run, empty, hand, retired, List.append_nil, List.append_nil]
  · simp [orderly.counted, retired, uncounted]

/-- A dispatcher that has not retired can do something, unless it waits for the queue. -/
theorem exists_step (working : dispatcher.phase ≠ .retired)
    (told : dispatcher.phase = .idle →
      dispatcher.queue.pending ≠ [] ∨ dispatcher.queue.aborted = true) :
    ∃ operation ∈ [.take, .offer, .settle, .retire], (dispatcher.step operation).isSome := by
  cases h : dispatcher.phase with
  | idle =>
    refine ⟨.take, by simp, ?_⟩
    cases units : dispatcher.queue.pending with
    | nil =>
      have aborted : dispatcher.queue.aborted = true := by simpa [units] using told h
      simp [step, take, h, Queue.next?_eq_stop_iff.mpr ⟨units, aborted, rfl⟩]
    | cons oldest rest => simp [step, take, h, Queue.next?_of_cons units]
  | offering unit => exact ⟨.offer, by simp, by simp [step, offer, h]⟩
  | settling => exact ⟨.settle, by simp, by simp [step, settle, h]⟩
  | closing => exact ⟨.retire, by simp, by simp [step, retire, h]⟩
  | retired => exact absurd h working

/-- Only an abort aborts. -/
theorem aborted_of_step (made : dispatcher.step operation = some after)
    (other : operation ≠ .abort) : after.queue.aborted = dispatcher.queue.aborted := by
  cases step_change made with
  | pushed unit =>
    show (dispatcher.queue.push unit).2.aborted = dispatcher.queue.aborted
    unfold Queue.push
    split <;> rfl
  | aborted => exact absurd rfl other
  | _ => rfl

/-- A retired dispatcher never does anything again. -/
theorem retired_lasts {later : List (Moment (Dispatcher τ) (Operation τ))}
    (run : Run step now later after) (retired : now.phase = .retired) :
    after.phase = .retired ∧ after.published = now.published ∧ after.offered = now.offered := by
  refine run.preserves (P := fun dispatcher => dispatcher.phase = .retired ∧
    dispatcher.published = now.published ∧ dispatcher.offered = now.offered) ?_ ⟨retired, rfl, rfl⟩
  rintro before operation next made ⟨retired, kept⟩
  cases step_change made with
  | pushed | aborted => exact ⟨retired, kept⟩
  | taken other | closed other | offered other | settled other | retired other =>
    rw [retired] at other
    cases other

end CallbackFerry.Dispatcher
