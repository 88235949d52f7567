import CallbackFerry.Bridge.Moves
import CallbackFerry.Proofs.Dispatcher
import Mathlib.Data.List.Count

/-!
# What the moves of a bridge do

For each move there is one lemma that says when it is possible and what bridge it leads to, such
as `push_eq_some`.

Drivers and the host work on submissions, and the dispatcher works on the queue.  By `step_frame`
a move of the bridge is an operation of its dispatcher, its `duty`, or leaves the dispatcher alone,
and no move changes the timeout.  So every run of a bridge is a run of its dispatcher
(`dispatcher_run`).
-/

namespace CallbackFerry.Bridge

variable {π ω ρ : Type} {bridge after : Bridge π ω ρ} {subject : Nat} {move : Move π ω ρ}

/-! ### What the moves do -/

/-- A driver that has drawn a number queues its unit, or gets it back and loses it. -/
theorem push_eq_some (made : bridge.push subject = some after) :
    ∃ s, bridge.submissions[subject]? = some s ∧ s.caller = .drawn ∧
      ((bridge.dispatcher.queue.closed = false ∧ ∃ lines,
          after = ((bridge.withDispatcher { bridge.dispatcher with
            queue := (bridge.dispatcher.queue.push ⟨subject, s.id⟩).2 }).bring subject
              .waiting).write lines) ∨
        (bridge.dispatcher.queue.closed = true ∧
          after = (bridge.complete subject .abandoned).bring subject
            (.leaving (.error .shutDown)))) := by
  cases record : bridge.submissions[subject]? with
  | none => simp [push, record] at made
  | some s =>
    refine ⟨s, rfl, ?_⟩
    cases drawn : s.caller with
    | drawn =>
      refine ⟨rfl, ?_⟩
      cases h : bridge.dispatcher.queue.closed with
      | false =>
        simp only [push, record, drawn, Queue.push_of_open h, Option.some.injEq] at made
        rw [Queue.push_of_open h]
        exact .inl ⟨rfl, _, made.symm⟩
      | true =>
        simp only [push, record, drawn, Queue.push_of_closed h, Option.some.injEq] at made
        exact .inr ⟨rfl, made.symm⟩
    | _ => simp [push, record, drawn] at made

/-- A driver that waits takes what is in its slot. -/
theorem collect_eq_some (made : bridge.collect subject = some after) :
    ∃ s completion, bridge.submissions[subject]? = some s ∧ s.caller = .waiting ∧
      s.slot = some completion ∧
      after = bridge.revise subject fun submission =>
        { submission with slot := none, caller := .leaving completion.result } := by
  cases record : bridge.submissions[subject]? with
  | none => simp [collect, record] at made
  | some s =>
    cases waiting : s.caller with
    | waiting =>
      cases filled : s.slot with
      | none => simp [collect, record, waiting, filled] at made
      | some completion =>
        simp only [collect, record, waiting, filled, Option.some.injEq] at made
        exact ⟨s, completion, rfl, waiting, filled, made.symm⟩
    | _ => simp [collect, record, waiting] at made

/-- A driver that waits with an empty slot gives up when its limit passes. -/
theorem expire_eq_some (made : bridge.expire subject = some after) :
    ∃ s limit, bridge.submissions[subject]? = some s ∧ s.caller = .waiting ∧ s.slot = none ∧
      bridge.timeout = some limit ∧
      after = bridge.bring subject (.leaving (.error (.timeout limit))) := by
  cases record : bridge.submissions[subject]? with
  | none => simp [expire, record] at made
  | some s =>
    cases waiting : s.caller with
    | waiting =>
      cases empty : s.slot with
      | some completion => simp [expire, record, waiting, empty] at made
      | none =>
        cases limited : bridge.timeout with
        | none => simp [expire, record, waiting, empty, limited] at made
        | some limit =>
          simp only [expire, record, waiting, empty, limited, Option.some.injEq] at made
          exact ⟨s, limit, rfl, waiting, empty, rfl, made.symm⟩
    | _ => simp [expire, record, waiting] at made

/-- A driver that knows its result leaves with it. -/
theorem leave_eq_some (made : bridge.leave subject = some after) :
    ∃ s result, bridge.submissions[subject]? = some s ∧ s.caller = .leaving result ∧
      after = ((bridge.count (parting s.id result).1).write (parting s.id result).2).bring subject
        (.returned result) := by
  cases record : bridge.submissions[subject]? with
  | none => simp [leave, record] at made
  | some s =>
    cases leaving : s.caller with
    | leaving result =>
      simp only [leave, record, leaving, Option.some.injEq] at made
      exact ⟨s, result, rfl, leaving, made.symm⟩
    | _ => simp [leave, record, leaving] at made

theorem take_eq_some (made : bridge.take = some after) :
    ∃ dispatcher lines, bridge.dispatcher.take = some dispatcher ∧
      after = (bridge.withDispatcher dispatcher).write lines := by
  cases h : bridge.dispatcher.take with
  | none => simp [take, h] at made
  | some dispatcher =>
    simp only [take, h, Option.some.injEq] at made
    exact ⟨dispatcher, _, rfl, made.symm⟩

/-- The host keeps the task that it is offered, or the task is lost. -/
theorem offer_eq_some {reception : Reception} {keeps : Bool}
    (made : bridge.offer reception keeps = some after) :
    ∃ ticket dispatcher lines, bridge.dispatcher.offer = some (ticket, dispatcher) ∧
      after =
        if keeps then
          { (bridge.withDispatcher dispatcher).write lines with held := bridge.held ++ [ticket] }
        else ((bridge.withDispatcher dispatcher).write lines).complete ticket.key .abandoned := by
  cases h : bridge.dispatcher.offer with
  | none => simp [offer, h] at made
  | some offered =>
    obtain ⟨ticket, dispatcher⟩ := offered
    refine ⟨ticket, dispatcher, Dispatcher.receptionLines (Callback.name ticket.id) reception,
      rfl, ?_⟩
    simp only [offer, h] at made
    cases keeps <;> exact (Option.some.inj made).symm

/-- A released task was among those held. -/
theorem release_eq_some {ticket : Ticket} (made : bridge.release subject = some (ticket, after)) :
    ticket ∈ bridge.held ∧ ticket.key = subject ∧
      after = { bridge with held := bridge.held.erase ticket } := by
  cases found : bridge.held.find? (·.key = subject) with
  | none => simp [release, found] at made
  | some first =>
    simp only [release, found, Option.some.injEq, Prod.mk.injEq] at made
    obtain ⟨rfl, rfl⟩ := made
    exact ⟨List.mem_of_find?_eq_some found, by simpa using List.find?_some found, rfl⟩

/-- A task begins that was held, and its function is noted to have come to something. -/
theorem begin_eq_some {world : ω} (made : (bridge.begin subject world).map (·.2) = some after) :
    ∃ ticket s lines, ticket ∈ bridge.held ∧ ticket.key = subject ∧
      bridge.submissions[subject]? = some s ∧
      after =
        { ((({ bridge with held := bridge.held.erase ticket } : Bridge π ω ρ).write lines).revise
            subject fun submission => { submission with
              outcomes := (s.callback.invoke world).outcome :: submission.outcomes }).count
            (·.recordRoutingErrors (s.callback.invoke world).misrouted) with
          running := ⟨ticket, milestones (s.callback.invoke world).outcome⟩ :: bridge.running } := by
  cases released : bridge.release subject with
  | none => simp [begin, released] at made
  | some release =>
    obtain ⟨ticket, without⟩ := release
    cases record : bridge.submissions[subject]? with
    | none => simp [begin, released, record] at made
    | some s =>
      obtain ⟨member, same, rfl⟩ := release_eq_some released
      simp only [begin, released, record, Option.map_some, Option.some.injEq] at made
      exact ⟨ticket, s, _, member, same, rfl, made.symm⟩

/-- A task that advances is the first of its kind, and another list of tasks is running then. -/
theorem advance_eq_some {timing : Timing} (made : bridge.advance subject timing = some after) :
    ∃ task, bridge.running.find? (·.ticket.key = subject) = some task ∧
      ((task.ahead = [] ∧
          after = { bridge with running := bridge.running.filter (·.ticket.key ≠ subject) }) ∨
        ∃ milestone rest, task.ahead = milestone :: rest ∧
          after = ({ bridge with
            running :=
              if rest.isEmpty then bridge.running.filter (·.ticket.key ≠ subject)
              else ⟨task.ticket, rest⟩ :: bridge.running.filter (·.ticket.key ≠ subject) } :
            Bridge π ω ρ).reach task.ticket timing milestone) := by
  cases found : bridge.running.find? (·.ticket.key = subject) with
  | none => simp [advance, found] at made
  | some task =>
    refine ⟨task, rfl, ?_⟩
    cases ahead : task.ahead with
    | nil =>
      simp only [advance, found, ahead, Option.some.injEq] at made
      exact .inl ⟨rfl, made.symm⟩
    | cons milestone rest =>
      simp only [advance, found, ahead, Option.some.injEq] at made
      exact .inr ⟨milestone, rest, rfl, made.symm⟩

/-! ### Frames -/

/-- What a move is to the dispatcher. -/
def duty (bridge : Bridge π ω ρ) : Move π ω ρ → Option (Dispatcher.Operation Ticket)
  | .push key => bridge.submissions[key]?.map fun submission => .push ⟨key, submission.id⟩
  | .abort => some .abort
  | .take => some .take
  | .offer _ _ => some .offer
  | .settle => some .settle
  | .retire => some .retire
  | _ => none

/-- Reaching a milestone concerns neither the dispatcher nor the timeout. -/
theorem reach_frame (ticket : Ticket) (timing : Timing) (milestone : Milestone ρ) :
    (bridge.reach ticket timing milestone).dispatcher = bridge.dispatcher ∧
      (bridge.reach ticket timing milestone).timeout = bridge.timeout := by
  cases milestone <;> exact ⟨rfl, rfl⟩

/-- A move is an operation of the dispatcher or leaves it alone, and no move changes the timeout. -/
theorem step_frame (made : bridge.step move = some after) :
    Follows Dispatcher.step bridge.dispatcher (bridge.duty move) after.dispatcher ∧
      after.timeout = bridge.timeout := by
  cases move with
  | draw | abort =>
    obtain rfl := Option.some.inj made
    exact ⟨rfl, rfl⟩
  | push key =>
    obtain ⟨s, record, -, ⟨-, lines, rfl⟩ | ⟨closed, rfl⟩⟩ := push_eq_some made
    · simp only [duty, record]
      exact ⟨rfl, rfl⟩
    · simp only [duty, record]
      refine ⟨?_, rfl⟩
      show some _ = some bridge.dispatcher
      rw [Queue.push_of_closed closed]
  | collect key =>
    obtain ⟨s, completion, -, -, -, rfl⟩ := collect_eq_some made
    exact ⟨rfl, rfl⟩
  | expire key =>
    obtain ⟨s, limit, -, -, -, -, rfl⟩ := expire_eq_some made
    exact ⟨rfl, rfl⟩
  | leave key =>
    obtain ⟨s, result, -, -, rfl⟩ := leave_eq_some made
    exact ⟨rfl, rfl⟩
  | take =>
    obtain ⟨dispatcher, lines, taken, rfl⟩ := take_eq_some made
    exact ⟨taken, rfl⟩
  | offer reception keeps =>
    obtain ⟨ticket, dispatcher, lines, offered, rfl⟩ := offer_eq_some made
    have answered : bridge.dispatcher.step .offer = some dispatcher := by
      rw [Dispatcher.step, offered, Option.map_some]
    cases keeps <;> exact ⟨answered, rfl⟩
  | settle =>
    obtain ⟨dispatcher, settled, rfl⟩ := Option.map_eq_some_iff.mp made
    exact ⟨settled, rfl⟩
  | retire =>
    obtain ⟨dispatcher, retired, rfl⟩ := Option.map_eq_some_iff.mp made
    exact ⟨retired, rfl⟩
  | begin key world =>
    obtain ⟨ticket, s, lines, -, -, -, rfl⟩ := begin_eq_some made
    exact ⟨rfl, rfl⟩
  | advance key timing =>
    obtain ⟨task, -, ⟨-, rfl⟩ | ⟨milestone, rest, -, rfl⟩⟩ := advance_eq_some made
    · exact ⟨rfl, rfl⟩
    · exact reach_frame ..
  | drop key =>
    obtain ⟨⟨ticket, without⟩, released, rfl⟩ := Option.map_eq_some_iff.mp made
    obtain ⟨-, -, rfl⟩ := release_eq_some released
    exact ⟨rfl, rfl⟩

/-! ### Counters -/

/-- How a move changes the counters. -/
def charge (bridge : Bridge π ω ρ) : Move π ω ρ → Metrics → Metrics
  | .draw _ => Metrics.recordSubmitted
  | .leave key =>
    match bridge.submissions[key]? with
    | some s =>
      match s.caller with
      | .leaving result => (parting s.id result).1
      | _ => id
    | none => id
  | .begin key world =>
    match bridge.submissions[key]? with
    | some s => fun metrics => metrics.recordRoutingErrors (s.callback.invoke world).misrouted
    | none => id
  | .advance key timing =>
    match bridge.running.find? (·.ticket.key = key) with
    | some ⟨_, .counted success :: _⟩ =>
      fun metrics => metrics.recordExecutedAt timing.finished timing.latency success
    | _ => id
  | _ => id

/-- The counters change by the charge of the move, and by nothing else. -/
theorem step_metrics (made : bridge.step move = some after) :
    after.metrics = bridge.charge move bridge.metrics := by
  cases move with
  | draw | abort =>
    obtain rfl := Option.some.inj made
    rfl
  | push key =>
    obtain ⟨s, -, -, ⟨-, lines, rfl⟩ | ⟨-, rfl⟩⟩ := push_eq_some made <;> rfl
  | collect key =>
    obtain ⟨s, completion, -, -, -, rfl⟩ := collect_eq_some made
    rfl
  | expire key =>
    obtain ⟨s, limit, -, -, -, -, rfl⟩ := expire_eq_some made
    rfl
  | leave key =>
    obtain ⟨s, result, record, leaving, rfl⟩ := leave_eq_some made
    simp only [charge, record, leaving]
    rfl
  | take =>
    obtain ⟨dispatcher, lines, -, rfl⟩ := take_eq_some made
    rfl
  | offer reception keeps =>
    obtain ⟨ticket, dispatcher, lines, -, rfl⟩ := offer_eq_some made
    cases keeps <;> rfl
  | settle | retire =>
    obtain ⟨dispatcher, -, rfl⟩ := Option.map_eq_some_iff.mp made
    rfl
  | begin key world =>
    obtain ⟨ticket, s, lines, -, -, record, rfl⟩ := begin_eq_some made
    simp only [charge, record]
    rfl
  | advance key timing =>
    obtain ⟨⟨ticket, ahead⟩, found, ⟨rfl, rfl⟩ | ⟨milestone, rest, rfl, rfl⟩⟩ :=
      advance_eq_some made
    · simp only [charge, found]
      rfl
    · simp only [charge, found]
      cases milestone <;> rfl
  | drop key =>
    obtain ⟨⟨ticket, without⟩, released, rfl⟩ := Option.map_eq_some_iff.mp made
    obtain ⟨-, -, rfl⟩ := release_eq_some released
    rfl

/-! ### What stays as it is -/

/-- The tasks that are running change only when one begins or advances, and so does what came out of
those that ran. -/
theorem tasks_of_step (made : bridge.step move = some after)
    (begins : ∀ key world, move ≠ .begin key world)
    (advances : ∀ key timing, move ≠ .advance key timing) :
    after.running = bridge.running ∧ after.surfaced = bridge.surfaced := by
  cases move with
  | draw | abort =>
    obtain rfl := Option.some.inj made
    exact ⟨rfl, rfl⟩
  | push key =>
    obtain ⟨s, -, -, ⟨-, lines, rfl⟩ | ⟨-, rfl⟩⟩ := push_eq_some made <;> exact ⟨rfl, rfl⟩
  | collect key =>
    obtain ⟨s, completion, -, -, -, rfl⟩ := collect_eq_some made
    exact ⟨rfl, rfl⟩
  | expire key =>
    obtain ⟨s, limit, -, -, -, -, rfl⟩ := expire_eq_some made
    exact ⟨rfl, rfl⟩
  | leave key =>
    obtain ⟨s, result, -, -, rfl⟩ := leave_eq_some made
    exact ⟨rfl, rfl⟩
  | take =>
    obtain ⟨dispatcher, lines, -, rfl⟩ := take_eq_some made
    exact ⟨rfl, rfl⟩
  | offer reception keeps =>
    obtain ⟨ticket, dispatcher, lines, -, rfl⟩ := offer_eq_some made
    cases keeps <;> exact ⟨rfl, rfl⟩
  | settle | retire =>
    obtain ⟨dispatcher, -, rfl⟩ := Option.map_eq_some_iff.mp made
    exact ⟨rfl, rfl⟩
  | begin key world => exact absurd rfl (begins key world)
  | advance key timing => exact absurd rfl (advances key timing)
  | drop key =>
    obtain ⟨⟨ticket, without⟩, released, rfl⟩ := Option.map_eq_some_iff.mp made
    obtain ⟨-, -, rfl⟩ := release_eq_some released
    exact ⟨rfl, rfl⟩

theorem running_of_step (made : bridge.step move = some after)
    (begins : ∀ key world, move ≠ .begin key world)
    (advances : ∀ key timing, move ≠ .advance key timing) : after.running = bridge.running :=
  (tasks_of_step made begins advances).1

/-- Something comes out of a task only when one advances. -/
theorem surfaced_of_step (made : bridge.step move = some after)
    (advances : ∀ key timing, move ≠ .advance key timing) : after.surfaced = bridge.surfaced := by
  cases move with
  | begin key world =>
    obtain ⟨ticket, s, lines, -, -, -, rfl⟩ := begin_eq_some made
    rfl
  | _ => exact (tasks_of_step made (by simp) advances).2

/-- A task that begins runs before all others. -/
theorem running_of_begin {world : ω} {work : Work ω ρ}
    (made : bridge.begin subject world = some (work, after)) :
    ∃ ticket : Ticket, ticket.key = subject ∧
      after.running = ⟨ticket, milestones work.outcome⟩ :: bridge.running := by
  cases released : bridge.release subject with
  | none => simp [begin, released] at made
  | some release =>
    obtain ⟨ticket, without⟩ := release
    cases record : bridge.submissions[subject]? with
    | none => simp [begin, released, record] at made
    | some s =>
      obtain ⟨-, same, rfl⟩ := release_eq_some released
      simp only [begin, released, record, Option.some.injEq, Prod.mk.injEq] at made
      obtain ⟨rfl, rfl⟩ := made
      exact ⟨ticket, same, rfl⟩

/-- A task that advances is gone after its last milestone. -/
theorem running_of_advance {timing : Timing} {ticket : Ticket} {milestone : Milestone ρ}
    {rest : List (Milestone ρ)} (made : bridge.advance subject timing = some after)
    (found : bridge.running.find? (·.ticket.key = subject) = some ⟨ticket, milestone :: rest⟩) :
    after.running =
      if rest.isEmpty then bridge.running.filter (·.ticket.key ≠ subject)
      else ⟨ticket, rest⟩ :: bridge.running.filter (·.ticket.key ≠ subject) := by
  obtain ⟨task, found', ⟨done, -⟩ | ⟨milestone', rest', ahead, rfl⟩⟩ := advance_eq_some made
  · obtain rfl := Option.some.inj (found.symm.trans found')
    cases done
  · obtain rfl := Option.some.inj (found.symm.trans found')
    obtain ⟨rfl, rfl⟩ := List.cons.inj ahead
    cases milestone <;> rfl

/-- What was offered changes only when something is. -/
theorem offered_of_step (made : bridge.step move = some after)
    (offers : ∀ reception keeps, move ≠ .offer reception keeps) :
    after.dispatcher.offered = bridge.dispatcher.offered := by
  have frame := (step_frame made).1
  cases own : bridge.duty move with
  | none =>
    rw [own] at frame
    rw [show after.dispatcher = bridge.dispatcher from frame]
  | some operation =>
    rw [own] at frame
    generalize after.dispatcher = dispatcher at frame ⊢
    cases Dispatcher.step_change frame with
    | offered offering =>
      cases move with
      | offer reception keeps => exact absurd rfl (offers reception keeps)
      | push key =>
        obtain ⟨s, -, pushes⟩ := Option.map_eq_some_iff.mp own
        cases pushes
      | _ => cases own
    | _ => rfl

/-- What the dispatcher can do the bridge can do; only a push takes a driver as well. -/
theorem exists_step_of_duty {operation : Dispatcher.Operation Ticket}
    {dispatcher : Dispatcher Ticket} (own : bridge.duty move = some operation)
    (alone : ∀ key, move ≠ .push key) (able : bridge.dispatcher.step operation = some dispatcher) :
    ∃ after, bridge.step move = some after ∧ after.dispatcher = dispatcher := by
  -- The move is possible; which dispatcher it leads to is known from its frame.
  have possible : (bridge.step move).isSome := by
    cases move with
    | push key => exact absurd rfl (alone key)
    | abort => rfl
    | take =>
      obtain rfl := Option.some.inj own
      have taken : bridge.dispatcher.take = some dispatcher := able
      simp [step, take, taken]
    | offer reception keeps =>
      obtain rfl := Option.some.inj own
      obtain ⟨⟨ticket, answered⟩, offered, -⟩ := Option.map_eq_some_iff.mp able
      cases keeps <;> simp [step, offer, offered]
    | settle =>
      obtain rfl := Option.some.inj own
      have settled : bridge.dispatcher.settle = some dispatcher := able
      simp [step, settle, settled]
    | retire =>
      obtain rfl := Option.some.inj own
      have retired : bridge.dispatcher.retire = some dispatcher := able
      simp [step, retire, retired]
    | _ => cases own
  obtain ⟨after, made⟩ := Option.isSome_iff_exists.mp possible
  have frame := (step_frame made).1
  rw [own] at frame
  exact ⟨after, made, Option.some.inj (frame.symm.trans able)⟩

/-- A run of a bridge is a run of its dispatcher. -/
theorem dispatcher_run {start now : Bridge π ω ρ}
    {past : List (Moment (Bridge π ω ρ) (Move π ω ρ))} (run : Run step start past now) :
    Run Dispatcher.step start.dispatcher (past.filterMap (Moment.seen dispatcher duty))
      now.dispatcher :=
  run.seen fun _ _ _ made => (step_frame made).1

end CallbackFerry.Bridge
