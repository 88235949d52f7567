import CallbackFerry.Proofs.Bridge.History

/-!
# Draining before stopping

Whatever the host answers, the dispatcher offers it all units that the queue accepts, in the order
of the pushes and each of them once.  It stops only when the queue is aborted and drained, and then
the queue is closed and nothing is left behind.

`drains_of_reached` says so of all runs of a bridge.  That the dispatcher goes on is a fact about
the dispatcher alone, whose runs a bridge's runs are; what becomes of a task that the host does not
keep is one about the standing of its submission.
-/

namespace CallbackFerry

variable {π ω ρ : Type}

namespace Bridge

/-- The ticket of the task that the host was offered in a moment, if it answered an offer. -/
def scheduled (moment : Moment (Bridge π ω ρ) (Move π ω ρ)) : Option Ticket :=
  match moment.move with
  | .offer _ _ => moment.before.dispatcher.hand.head?
  | _ => none

/-! ### What the dispatcher sees -/

theorem seen_accepted (moment : Moment (Bridge π ω ρ) (Move π ω ρ)) :
    (moment.seen dispatcher duty).bind Dispatcher.accepted = accepted moment := by
  obtain ⟨before, move⟩ := moment
  cases move with
  | push key =>
    cases record : before.submissions[key]? <;>
      simp [Moment.seen, duty, Dispatcher.accepted, accepted, record]
  | _ => rfl

theorem seen_scheduled (moment : Moment (Bridge π ω ρ) (Move π ω ρ)) :
    (moment.seen dispatcher duty).bind Dispatcher.scheduled = scheduled moment := by
  obtain ⟨before, move⟩ := moment
  cases move with
  | push key =>
    cases record : before.submissions[key]? <;>
      simp [Moment.seen, duty, Dispatcher.scheduled, scheduled, record]
  | _ => rfl

variable {settings : BridgeSettings} {past later : List (Moment (Bridge π ω ρ) (Move π ω ρ))}
  {now future : Bridge π ω ρ}

/-- The units that were offered, then the one in hand, then those queued are those accepted. -/
theorem scheduled_append (reached : Reached settings past now) :
    past.filterMap scheduled ++ now.dispatcher.hand ++ now.dispatcher.queue.pending
      = past.filterMap accepted := by
  have run := dispatcher_run reached.run
  have offered := Dispatcher.scheduled_eq_offered run
  have units := Dispatcher.inventory run
  rw [List.filterMap_filterMap] at offered units
  rw [funext seen_scheduled] at offered
  rw [funext seen_accepted] at units
  rw [offered, units]

/-- No unit is accepted twice. -/
theorem nodup_accepted (reached : Reached settings past now) :
    ((past.filterMap accepted).map (·.key)).Nodup := by
  obtain ⟨first, started, run⟩ := reached
  induction run with
  | start => exact .nil
  | @next past now after move run made ih =>
    rw [Run.filterMap_concat, List.map_append, List.nodup_append]
    refine ⟨ih, ?_, ?_⟩
    · cases accepted ⟨now, move⟩ <;> simp
    · intro key before key' last same
      subst same
      obtain ⟨ticket, member, rfl⟩ := List.mem_map.mp before
      obtain ⟨ticket', last, same⟩ := List.mem_map.mp last
      obtain ⟨moment, member, again⟩ := List.mem_filterMap.mp member
      -- Its driver has pushed it already, and would have to push it once more.
      have entered : (now.standing ticket.key).Entered :=
        (accepted_iff ⟨first, started, run⟩).mp ⟨moment, member, ticket, again, rfl⟩
      exact ((step_change made).entered_of_accepted (Option.mem_toList.mp last) same).2 entered

/-! ### The dispatcher goes on -/

/-- Whatever the host answers, the dispatcher counts what it offered and goes back to its queue. -/
theorem exists_settled {ticket : Ticket} (hand : now.dispatcher.hand = [ticket])
    (reception : Reception) (keeps : Bool) :
    ∃ answered settled, now.step (.offer reception keeps) = some answered ∧
      answered.step .settle = some settled ∧ settled.dispatcher.phase = .idle ∧
      settled.dispatcher.queue = now.dispatcher.queue := by
  have offering := Dispatcher.hand_eq_singleton_iff.mp hand
  have offers : now.dispatcher.step .offer = some { now.dispatcher with
      phase := .settling
      offered := ticket :: now.dispatcher.offered } := by
    rw [Dispatcher.step, Dispatcher.offer_eq_some_iff.mpr ⟨offering, rfl⟩]
    rfl
  -- The duty of the dispatcher is the same for all answers of the host.
  have own : now.duty (.offer reception keeps) = some .offer := rfl
  obtain ⟨answered, offered, after⟩ := exists_step_of_duty own (by simp) offers
  have settles : answered.dispatcher.step .settle = some { answered.dispatcher with
      phase := .idle
      dispatched := answered.dispatcher.dispatched + 1
      published := .waiting :: answered.dispatcher.published } :=
    Dispatcher.settle_eq_some_iff.mpr ⟨by rw [after], rfl⟩
  have own : answered.duty .settle = some .settle := rfl
  obtain ⟨settled, made, result⟩ := exists_step_of_duty own (by simp) settles
  refine ⟨answered, settled, offered, made, ?_, ?_⟩
  · rw [result]
  · rw [result, after]

/-- A dispatcher that has not stopped goes on, unless it waits for the queue. -/
theorem exists_move (reached : Reached settings past now)
    (working : now.dispatcher.state ≠ .stopped)
    (told : now.dispatcher.phase = .idle →
      now.dispatcher.queue.pending ≠ [] ∨ now.dispatcher.queue.aborted = true)
    (reception : Reception) (keeps : Bool) :
    ∃ move ∈ [.take, .offer reception keeps, .settle, .retire], (now.step move).isSome := by
  have orderly := Dispatcher.orderly_of_run (dispatcher_run reached.run)
  obtain ⟨operation, own, able⟩ := Dispatcher.exists_step
    (fun retired => working (orderly.state_eq_stopped_iff.mpr retired)) told
  obtain ⟨dispatcher, able⟩ := Option.isSome_iff_exists.mp able
  obtain ⟨move, member, duty, alone⟩ : ∃ move ∈ [.take, .offer reception keeps, .settle, .retire],
      now.duty move = some operation ∧ ∀ key, move ≠ .push key := by
    simp only [List.mem_cons, List.not_mem_nil, or_false] at own
    rcases own with rfl | rfl | rfl | rfl
    · exact ⟨.take, by simp, rfl, by simp⟩
    · exact ⟨.offer reception keeps, by simp, rfl, by simp⟩
    · exact ⟨.settle, by simp, rfl, by simp⟩
    · exact ⟨.retire, by simp, rfl, by simp⟩
  obtain ⟨after, made, -⟩ := exists_step_of_duty duty alone able
  exact ⟨move, member, by rw [made]; rfl⟩

/-! ### After the end -/

/-- Once the dispatcher has stopped it stays so, and every push is refused. -/
theorem stopped_lasts (reached : Reached settings past now)
    (stopped : now.dispatcher.state = .stopped) (onward : Run step now later future) :
    future.dispatcher.phase = .retired ∧ future.dispatcher.queue.closed = true ∧
      future.dispatcher.published = now.dispatcher.published := by
  have orderly := Dispatcher.orderly_of_run (dispatcher_run reached.run)
  have retired := orderly.state_eq_stopped_iff.mp stopped
  obtain ⟨retired, published, -⟩ := Dispatcher.retired_lasts (dispatcher_run onward) retired
  have still := Dispatcher.orderly_of_run (dispatcher_run (reached.append onward).run)
  exact ⟨retired, by rw [still.closed, retired]; rfl, published⟩

/-- What a dispatcher does whatever the host answers. -/
structure Drains (past : List (Moment (Bridge π ω ρ) (Move π ω ρ))) (now : Bridge π ω ρ) :
    Prop where
  /-- The host is offered the units that were accepted, in the order of the pushes. -/
  inOrder : past.filterMap scheduled <+: past.filterMap accepted
  /-- Each is offered once at most. -/
  once : ((past.filterMap scheduled).map (·.key)).Nodup
  /-- Whatever the host answers, the dispatcher goes back to the units that are still queued. -/
  goesBack : ∀ ticket reception keeps, now.dispatcher.hand = [ticket] →
    ∃ answered settled, now.step (.offer reception keeps) = some answered ∧
      answered.step .settle = some settled ∧ settled.dispatcher.phase = .idle ∧
      settled.dispatcher.queue = now.dispatcher.queue
  /-- It goes on until it has stopped, except that it waits while the queue is empty and nobody has
  asked it to stop. -/
  goesOn : now.dispatcher.state ≠ .stopped →
    (now.dispatcher.phase = .idle →
      now.dispatcher.queue.pending ≠ [] ∨ now.dispatcher.queue.aborted = true) →
    ∀ reception keeps, ∃ move ∈ [.take, .offer reception keeps, .settle, .retire],
      (now.step move).isSome
  /-- The handoff of a unit that the host was offered and did not keep is completed as abandoned,
  and that is all that its driver can get from it. -/
  abandons : ∀ moment ∈ past, ∀ reception ticket, moment.move = .offer reception false →
    moment.before.dispatcher.hand = [ticket] → ∃ s, now.submissions[ticket.key]? = some s ∧
      (s.slot = some .abandoned ∨ s.caller.result? = some (.error .abandoned))
  /-- It publishes that it waits, then any number of times that it runs and waits, and then that it
  has stopped. -/
  published : ∃ n, now.dispatcher.published.reverse <+: Dispatcher.word n
  /-- When it has stopped the queue is closed and empty, and all units that were accepted have been
  offered and counted. -/
  drained : now.dispatcher.state = .stopped →
    now.dispatcher.queue.closed = true ∧ now.dispatcher.queue.pending = [] ∧
      past.filterMap scheduled = past.filterMap accepted ∧
      now.dispatcher.dispatched = (past.filterMap scheduled).length
  /-- When it has stopped it stays so, and whoever pushes later is refused. -/
  final : now.dispatcher.state = .stopped → ∀ later future, Run step now later future →
    future.dispatcher.state = .stopped ∧
      future.dispatcher.published = now.dispatcher.published ∧
      ∀ moment ∈ later, ∀ key, moment.move = .push key → Refused key moment

/-- The dispatcher of a reachable bridge drains its queue before it stops. -/
theorem drains_of_reached (reached : Reached settings past now) : Drains past now := by
  have run := dispatcher_run reached.run
  have orderly := Dispatcher.orderly_of_run run
  have units := scheduled_append reached
  -- What is offered comes first in the account, so it is a beginning of what was accepted.
  have inOrder : past.filterMap scheduled <+: past.filterMap accepted := by
    rw [← units, List.append_assoc]
    exact List.prefix_append _ _
  refine ⟨inOrder, ?_, fun ticket reception keeps hand => exists_settled hand reception keeps,
    fun working told => exists_move reached working told, ?_, orderly.published_prefix, ?_, ?_⟩
  · exact (nodup_accepted reached).sublist (inOrder.sublist.map _)
  · intro moment member reception ticket unkept hand
    have lost : (now.standing ticket.key).Lost := by
      refine reached.lasts_of_mem (P := Standing.Lost)
        (fun _ _ _ sound change => change.lost_lasts sound) member fun st' sound change => ?_
      rw [unkept] at change
      exact change.lost_of_unkept sound hand rfl
    obtain ⟨s, record, -, lost⟩ := lost
    exact ⟨s, record, lost⟩
  · intro stopped
    obtain ⟨closed, empty, -, counted⟩ := Dispatcher.leftBehind_of_stopped run stopped
    have retired := orderly.state_eq_stopped_iff.mp stopped
    have offered := Dispatcher.scheduled_eq_offered run
    rw [List.filterMap_filterMap, funext seen_scheduled] at offered
    refine ⟨closed, empty, ?_, ?_⟩
    · rw [← units, empty, Dispatcher.hand, retired, List.append_nil, List.append_nil]
    · rw [counted, offered, List.length_reverse]
  · intro stopped later future onward
    obtain ⟨-, -, published⟩ := stopped_lasts reached stopped onward
    refine ⟨?_, published, fun moment member key push => ⟨push, ?_⟩⟩
    · rw [Dispatcher.state, published]
      exact stopped
    · obtain ⟨earlier, rest, after, -, upTo, made, -⟩ := onward.of_mem member
      rw [push] at made
      obtain ⟨s, record, -⟩ := push_eq_some made
      obtain ⟨-, closed, -⟩ := stopped_lasts reached stopped upTo
      exact ⟨s, record, Queue.push_of_closed closed _⟩

/-- A host that breaks off over the first unit and refuses the second, which is pushed after the
abort, and a third unit that comes too late. -/
theorem drains_of_failing_host : ∃ past, ∃ now : Bridge Nat Unit Nat, Reached {} past now ∧
    now.dispatcher.state = .stopped ∧ past.filterMap scheduled = [⟨0, 1⟩, ⟨1, 2⟩] ∧
      now.dispatcher.dispatched = 2 ∧ Drains past now := by
  have usable : BridgeSettings.flaw? {} = none := by decide
  have reached := reached_of_moves usable (by decide)
    [.draw (⟨20, fun payload world => ⟨.ok (payload + 1), world, 0⟩⟩ : Callback Nat Unit Nat),
      .draw ⟨30, fun payload world => ⟨.ok (payload + 1), world, 0⟩⟩,
      .draw ⟨40, fun payload world => ⟨.ok (payload + 1), world, 0⟩⟩, .push 0, .abort, .take,
      .offer .brokeOff false, .push 1, .settle, .take, .offer (.refused .abandoned) false, .settle,
      .take, .retire, .push 2]
  exact ⟨_, _, reached, rfl, rfl, rfl, drains_of_reached reached⟩

end Bridge
end CallbackFerry
