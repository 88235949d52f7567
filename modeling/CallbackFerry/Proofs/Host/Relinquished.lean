import CallbackFerry.Proofs.Host.Report

/-!
# Domains that are given up

A loop is over when it has come to its end, or when its domain was given up, which may happen before
it has received anything and between any two tasks.  What it had started is destroyed then, and who
waits for it is told of an abandonment.  What is in the channel is not: it belongs to the sending
ends as well, and stays where it is as long as there is one.

`Bequest` says where everything is that was accepted, once the loop is over.
`relinquished_of_run` tells what every driver gets, and `not_forall_gets` that a driver whose task
is in the channel gets nothing, though the loop is over: it waits for ever if it has no limit and
there is always a sending end.
-/

namespace CallbackFerry

/-! ### Drivers that nobody releases -/

namespace Handoff

variable {ρ : Type} {past : List (Moment (Handoff ρ) (Act ρ))} {now : Handoff ρ}

/-- A handoff that the host has not touched. -/
structure Pending (past : List (Moment (Handoff ρ) (Act ρ))) (now : Handoff ρ) : Prop where
  held : now.signal = .held
  empty : now.slot = none
  /-- The driver is told of nothing but its limit. -/
  told : ∀ result ∈ past.filterMap told, ∃ limit, result = .error (.timeout limit)
  /-- It waits for ever if it has none. -/
  blocked : past.filterMap limited = [none] →
    past.filterMap Handoff.told = [] ∧ (now.waiter = .asleep none ∨ now.waiter = .awake none)

theorem pending_of_run (run : Run step ({} : Handoff ρ) past now)
    (silent : past.filterMap signalled = []) (kept : ∀ moment ∈ past, moment.move ≠ .drop) :
    Pending past now := by
  obtain ⟨hosted, driven⟩ := sound_of_run run
  rw [silent] at hosted
  obtain ⟨unfilled, held⟩ : past.filterMap filled = [] ∧ now.signal = .held := by
    rcases hosted.of_nil with empty | full
    · exact empty
    · obtain ⟨-, -, moment, member, drops⟩ :=
        forsaken_of_filled silent (full ▸ List.mem_singleton_self _)
      exact absurd drops (kept moment member)
  rw [unfilled] at driven
  refine ⟨held, driven.slot_of_nil, ?_, ?_⟩
  · generalize past.filterMap limited = limits, past.filterMap told = answers,
      now.slot = slot, now.waiter = waiter at driven
    intro result member
    cases driven with
    | timedOut _ limit => exact ⟨limit, List.mem_singleton.mp member⟩
    | _ => cases member
  · intro unlimited
    rw [unlimited] at driven
    generalize past.filterMap told = answers, now.slot = slot, now.waiter = waiter at driven
    cases driven with
    | asleep => exact ⟨rfl, .inl rfl⟩
    | awake => exact ⟨rfl, .inr rfl⟩

end Handoff

namespace HostDomain

variable {ι π ω ρ : Type} [DecidableEq ι] {tasks : ι → Callback π ω ρ}
  {before after now : HostDomain ι ρ} {event : Option (Event ι ω ρ)} {task : ι}
  {past later : List (Moment (HostDomain ι ρ) (Move ι ω ρ))}

/-! ### Where everything is -/

/-- The task that was destroyed, if one was. -/
def Event.destroyed? : Event ι ω ρ → Option ι
  | .destroyed task => some task
  | _ => none

/-- The tasks that were destroyed after they had been accepted. -/
def destroyed (past : List (Moment (HostDomain ι ρ) (Move ι ω ρ))) : List ι :=
  (events past).filterMap Event.destroyed?

/-- Nothing is destroyed before the domain is given up. -/
theorem Change.spared (change : Change tasks before event after) (kept : after.stage ≠ .givenUp)
    (spared : before.lost = []) :
    after.lost = [] ∧ (event.bind Event.destroyed?).toList = [] := by
  cases change with
  | givenUp => exact absurd rfl kept
  | swept gone => exact absurd gone kept
  | destroyed lost =>
    rw [spared] at lost
    cases lost
  | @noticed task fault => cases fault <;> exact ⟨spared, rfl⟩
  | _ => exact ⟨spared, rfl⟩

theorem spared_of_run (run : Run (step tasks) ({} : HostDomain ι ρ) past now)
    (kept : now.stage ≠ .givenUp) : now.lost = [] ∧ destroyed past = [] := by
  induction run with
  | start => exact ⟨rfl, rfl⟩
  | next run made ih =>
    have change := step_change made
    obtain ⟨lost, none⟩ := ih (change.kept kept)
    obtain ⟨lost, still⟩ := change.spared kept lost
    refine ⟨lost, ?_⟩
    rw [destroyed, filterMap_events_concat, still, List.append_nil]
    exact none

/-- What is left of a domain whose loop is over. -/
structure Bequest (tasks : ι → Callback π ω ρ) (accepted : List ι) (runs : List (ι × ω))
    (released ended : List (ι × Except Fault ρ)) (destroyed : List ι) (now : HostDomain ι ρ) :
    Prop where
  /-- What was accepted has ended, or was destroyed or will be, or is in the channel. -/
  accepted : accepted = ended.map Prod.fst ++ destroyed ++ now.lost ++ now.loop.arrived
  /-- All that has begun has ended, -/
  begun : runs.map (outcome tasks) = ended
  /-- and all drivers of what has ended were released. -/
  released : released = ended
  halted : now.stage = .done ∨ now.stage = .givenUp
  isOver : now.loop.isOver = true
  closed : now.loop.closed = true
  idle : now.body = none
  /-- Nothing is in the channel at the end, or once the last sending end is gone. -/
  swept : now.stage = .done ∨ now.handles = 0 → now.loop.arrived = []

section Bequest

variable {accepted : List ι} {runs : List (ι × ω)} {released ended : List (ι × Except Fault ρ)}
  {destroyed : List ι} {footsteps : List (Footstep ι)}

omit [DecidableEq ι] in
theorem Bequest.fst_ended (bequest : Bequest tasks accepted runs released ended destroyed now) :
    ended.map Prod.fst = runs.map Prod.fst := by
  rw [← bequest.begun, List.map_map]
  rfl

/-- What was started when a domain was given up is lost. -/
theorem Orderly.bequest
    (orderly : Orderly tasks accepted runs released ended footsteps before)
    (change : Change tasks before event after) (kept : before.stage ≠ .givenUp)
    (gone : after.stage = .givenUp) :
    event = none ∧ Bequest tasks accepted runs released ended [] after := by
  cases change with
  | @givenUp lost arrived going idle parted held =>
    refine ⟨rfl, ?_, ?_, ?_, .inr rfl, rfl, rfl, idle, fun empty => ?_⟩
    · show accepted = ended.map Prod.fst ++ [] ++ lost ++ arrived
      rw [orderly.accepted, List.append_nil, List.append_assoc, List.append_assoc, parted]
    · rw [orderly.begun, inHand_of_idle idle, List.append_nil]
    · rw [orderly.released, freed_of_idle idle, List.append_nil]
    · exact held (empty.resolve_left (by simp))
  | drained => cases gone
  | finished => cases gone
  | @noticed task fault => cases fault <;> exact absurd gone kept
  | _ => exact absurd gone kept

/-- Once the loop is over, only what was lost goes on. -/
theorem Bequest.change (bequest : Bequest tasks accepted runs released ended destroyed before)
    (change : Change tasks before event after) :
    Bequest tasks (accepted ++ (event.bind Event.accepted?).toList)
      (runs ++ (event.bind Event.run?).toList) (released ++ (event.bind Event.released?).toList)
      (ended ++ (event.bind Event.ended?).toList)
      (destroyed ++ (event.bind Event.destroyed?).toList) after := by
  obtain ⟨accepted_eq, begun, released_eq, halted, isOver, closed, idle, swept⟩ := bequest
  have stopped : before.stage ≠ .selecting ∧ before.stage ≠ .draining := by
    rcases halted with halted | halted <;> simp [halted]
  cases change with
    simp only [Option.bind_none, Option.bind_some, Event.accepted?, Event.run?, Event.released?,
      Event.ended?, Event.destroyed?, Option.toList_none, Option.toList_some, List.append_nil]
  | @door handles loop loop_eq alive held =>
    have same : loop.arrived = before.loop.arrived ∧ loop.isOver = true ∧ loop.closed = true := by
      rcases loop_eq with rfl | rfl
      · exact ⟨rfl, isOver, closed⟩
      · exact ⟨rfl, isOver, rfl⟩
    refine ⟨?_, begun, released_eq, halted, same.2.1, same.2.2, idle, fun empty => ?_⟩
    · rw [accepted_eq, ← same.1]
    · -- A sending end of a domain that was given up is not the last one, or it is swept.
      rw [same.1]
      refine swept (.inl (halted.resolve_right fun gone => ?_))
      rcases empty with done | none
      · rw [show before.stage = .done from done] at gone
        cases gone
      · exact held.elim (· none) (· gone)
  | accepted fresh opened =>
    rw [closed] at opened
    cases opened
  | refused | acted => exact ⟨accepted_eq, begun, released_eq, halted, isOver, closed, idle, swept⟩
  | received selecting => exact absurd selecting stopped.1
  | drained selecting => exact absurd selecting stopped.1
  | finished draining => exact absurd draining stopped.2
  | begun idle going | noticed going | givenUp going =>
    rw [isOver] at going
    cases going
  | counted running | released running | ended running =>
    rw [idle] at running
    cases running
  | swept gone =>
    refine ⟨?_, begun, released_eq, halted, isOver, rfl, idle, fun _ => rfl⟩
    show accepted = _ ++ (before.lost ++ before.loop.arrived) ++ []
    rw [accepted_eq, List.append_nil, List.append_assoc (_ ++ destroyed)]
  | @destroyed task rest handoff lost =>
    refine ⟨?_, begun, released_eq, halted, isOver, closed, idle, swept⟩
    show accepted = _ ++ (destroyed ++ [task]) ++ rest ++ before.loop.arrived
    rw [accepted_eq, lost]
    simp only [List.append_assoc, List.cons_append, List.nil_append]

/-- What is in the channel stays there unless the last sending end is dropped. -/
theorem Bequest.lasts (bequest : Bequest tasks accepted runs released ended destroyed before)
    (change : Change tasks before event after) (alive : after.handles ≠ 0) :
    before.handles ≠ 0 ∧ after.loop.arrived = before.loop.arrived := by
  have stopped : before.stage ≠ .selecting := by
    rcases bequest.halted with halted | halted <;> simp [halted]
  cases change with
  | door loop_eq still => exact ⟨still, by rcases loop_eq with rfl | rfl <;> rfl⟩
  | accepted fresh opened =>
    rw [bequest.closed] at opened
    cases opened
  | received selecting => exact absurd selecting stopped
  | @noticed task fault => cases fault <;> exact ⟨alive, rfl⟩
  | givenUp going =>
    rw [bequest.isOver] at going
    cases going
  | swept => exact absurd rfl alive
  | _ => exact ⟨alive, rfl⟩

end Bequest

theorem bequest_of_run (run : Run (step tasks) ({} : HostDomain ι ρ) past now)
    (halted : now.stage = .done ∨ now.stage = .givenUp) :
    Bequest tasks (accepted past) (runs past) (released past) (ended past) (destroyed past)
      now := by
  by_cases gone : now.stage = .givenUp
  · induction run with
    | start => cases gone
    | @next past now after move run made ih =>
      have change := step_change made
      by_cases before : now.stage = .givenUp
      · have bequest := ih (.inr before) before
        simp only [accepted, runs, released, ended, destroyed, filterMap_events_concat]
        exact bequest.change change
      · -- This is the move that gives the domain up.
        obtain ⟨none, bequest⟩ := (kept_of_run run before).orderly.bequest change before gone
        rw [← (spared_of_run run before).2] at bequest
        simp only [accepted, runs, released, ended, destroyed, filterMap_events_concat, none,
          Option.bind_none, Option.toList_none, List.append_nil]
        exact bequest
  · have kept := kept_of_run run gone
    have settled := kept.settled (halted.resolve_right gone)
    obtain ⟨lost, none⟩ := spared_of_run run gone
    refine ⟨?_, (kept.ended_eq settled).symm, ?_, halted, settled.isOver, settled.closed,
      settled.idle, fun _ => settled.arrived⟩
    · rw [none, lost, settled.arrived, kept.accepted_eq settled, kept.ended_eq settled]
      simp [outcome]
    · rw [kept.released_eq settled, kept.ended_eq settled]

theorem lasts_of_run (run : Run (step tasks) ({} : HostDomain ι ρ) past now)
    (halted : now.stage = .done ∨ now.stage = .givenUp)
    (onward : Run (step tasks) now later after) :
    (after.stage = .done ∨ after.stage = .givenUp) ∧
      (after.handles ≠ 0 → after.loop.arrived = now.loop.arrived) := by
  induction onward with
  | start => exact ⟨halted, fun _ => rfl⟩
  | next onward made ih =>
    obtain ⟨halted, same⟩ := ih
    have bequest := bequest_of_run (run.append onward) halted
    have change := step_change made
    refine ⟨(bequest.change change).halted, fun alive => ?_⟩
    obtain ⟨alive, still⟩ := bequest.lasts change alive
    rw [still, same alive]

/-! ### What the drivers get -/

/-- Nothing was signalled to the driver of a task that was not run. -/
theorem silent_of_idle (run : Run (step tasks) ({} : HostDomain ι ρ) past now)
    (halted : now.stage = .done ∨ now.stage = .givenUp) (idle : task ∉ (runs past).map Prod.fst) :
    (own task past).filterMap Handoff.signalled = [] := by
  have bequest := bequest_of_run run halted
  refine List.eq_nil_iff_forall_not_mem.mpr fun result signalled => idle ?_
  have listed := released_of_signalled run signalled
  rw [bequest.released] at listed
  rw [← bequest.fst_ended]
  exact List.mem_map_of_mem listed

/-- What is in the channel has met with nothing else. -/
theorem apart_of_arrived (run : Run (step tasks) ({} : HostDomain ι ρ) past now)
    (halted : now.stage = .done ∨ now.stage = .givenUp) (inside : task ∈ now.loop.arrived) :
    task ∈ accepted past ∧ task ∉ (ended past).map Prod.fst ∧ task ∉ destroyed past ∧
      task ∉ refused past := by
  have bequest := bequest_of_run run halted
  have distinct := distinct_of_run run
  have known : task ∈ accepted past := by
    rw [bequest.accepted]
    exact List.mem_append_right _ inside
  have nodup := distinct.offered.nodup_iff.mpr distinct.nodup
  obtain ⟨once, -, apart⟩ := List.nodup_append.mp nodup
  rw [bequest.accepted] at once
  obtain ⟨-, -, behind⟩ := List.nodup_append.mp once
  refine ⟨known, fun ended => ?_, fun destroyed => ?_, fun refused => apart _ known _ refused rfl⟩
  · exact behind task (List.mem_append_left _ (List.mem_append_left _ ended)) task inside rfl
  · exact behind task (List.mem_append_left _ (List.mem_append_right _ destroyed)) task inside rfl

theorem drivers_of_acted {act : Handoff.Act ρ}
    (run : Run (step tasks) ({} : HostDomain ι ρ) past now)
    (listed : Event.acted task act ∈ events past) : act.isDrivers = true := by
  obtain ⟨moment, member, tells⟩ := List.mem_filterMap.mp listed
  obtain ⟨-, -, after, -, -, made, -⟩ := run.of_mem member
  have change := step_change made
  rw [show HostDomain.event ⟨moment.before, moment.move⟩ = _ from tells] at change
  cases change with
  | acted drivers => exact drivers

/-- The host's half of a handoff is dropped if its task is refused, has ended, or is destroyed, and
for no other reason. -/
theorem mem_of_dropped (run : Run (step tasks) ({} : HostDomain ι ρ) past now)
    (dropped : Handoff.Act.drop ∈ (own task past).map Moment.move) :
    task ∈ refused past ∨ task ∈ (ended past).map Prod.fst ∨ task ∈ destroyed past := by
  rw [map_move_own] at dropped
  obtain ⟨told, listed, acts⟩ := List.mem_filterMap.mp dropped
  cases told with
  | refused other =>
    obtain ⟨rfl, -⟩ := Option.ite_none_right_eq_some.mp acts
    exact .inl (List.mem_filterMap.mpr ⟨_, listed, rfl⟩)
  | ended other outcome =>
    obtain ⟨rfl, -⟩ := Option.ite_none_right_eq_some.mp acts
    have ended : (other, outcome) ∈ ended past := List.mem_filterMap.mpr ⟨_, listed, rfl⟩
    exact .inr (.inl (List.mem_map_of_mem ended))
  | destroyed other =>
    obtain ⟨rfl, -⟩ := Option.ite_none_right_eq_some.mp acts
    exact .inr (.inr (List.mem_filterMap.mpr ⟨_, listed, rfl⟩))
  | acted other act =>
    obtain ⟨rfl, same⟩ := Option.ite_none_right_eq_some.mp acts
    obtain rfl := Option.some.inj same
    have drivers := drivers_of_acted run listed
    cases drivers
  | released other outcome =>
    obtain ⟨-, same⟩ := Option.ite_none_right_eq_some.mp acts
    cases same
  | _ => cases acts

/-- Nobody releases the driver of a task that is in the channel. -/
theorem pending_of_arrived (run : Run (step tasks) ({} : HostDomain ι ρ) past now)
    (halted : now.stage = .done ∨ now.stage = .givenUp) (inside : task ∈ now.loop.arrived) :
    Handoff.Pending (own task past) (now.handoffs task) := by
  obtain ⟨known, unended, undestroyed, unrefused⟩ := apart_of_arrived run halted inside
  have idle : task ∉ (runs past).map Prod.fst := by
    rw [← (bequest_of_run run halted).fst_ended]
    exact unended
  refine Handoff.pending_of_run (own_run run task) (silent_of_idle run halted idle) ?_
  intro moment member drops
  rcases mem_of_dropped run (List.mem_map.mpr ⟨moment, member, drops⟩) with refused | ended | gone
  · exact unrefused refused
  · exact unended ended
  · exact undestroyed gone

/-- What becomes of the tasks of a domain whose loop is over. -/
structure Relinquished (tasks : ι → Callback π ω ρ)
    (past : List (Moment (HostDomain ι ρ) (Move ι ω ρ))) (now : HostDomain ι ρ) : Prop where
  /-- The driver of a task that was run gets what its function came to. -/
  ran : ∀ run ∈ runs past,
    Handoff.Gets (.ofOutcome (outcome tasks run).2) (own run.1 past) (now.handoffs run.1)
  /-- The driver of any other task that was received gets an abandonment, and once the last sending
  end is gone, so does that of a task that was not received. -/
  abandoned : ∀ task ∈ accepted past, task ∉ (runs past).map Prod.fst →
    task ∉ now.loop.arrived → Handoff.Gets .abandoned (own task past) (now.handoffs task)
  swept : now.handles = 0 → now.loop.arrived = []
  /-- While there is one, what is in the channel is not run, and its driver gets nothing. -/
  left : ∀ task ∈ now.loop.arrived, task ∈ accepted past ∧ task ∉ (runs past).map Prod.fst ∧
    ∀ later after, Run (step tasks) now later after → after.handles ≠ 0 →
      Handoff.Pending (own task (past ++ later)) (after.handoffs task)
  /-- A task that was refused is not run, and its driver gets an abandonment. -/
  refused : ∀ task ∈ refused past, task ∉ (runs past).map Prod.fst ∧
    Handoff.Gets .abandoned (own task past) (now.handoffs task)

/-- In whatever order tasks are given away, sending ends are closed and dropped, and the loop
receives, runs and notices, wherever it ends: the drivers of all that it has received are released,
and those of what is in the channel when nobody can send any more. -/
theorem relinquished_of_run (run : Run (step tasks) ({} : HostDomain ι ρ) past now)
    (halted : now.stage = .done ∨ now.stage = .givenUp) (clean : now.lost = []) :
    Relinquished tasks past now := by
  have bequest := bequest_of_run run halted
  have distinct := distinct_of_run run
  have nodup := distinct.offered.nodup_iff.mpr distinct.nodup
  constructor
  case ran =>
    intro run' ran
    have listed : outcome tasks run' ∈ released past := by
      rw [bequest.released, ← bequest.begun]
      exact List.mem_map_of_mem ran
    exact gets_of_released run listed
  case abandoned =>
    intro task known idle outside
    have silent := silent_of_idle run halted idle
    rw [bequest.accepted, bequest.fst_ended, clean, List.append_nil] at known
    have gone : task ∈ destroyed past := by simpa [idle, outside] using known
    obtain ⟨told, listed, same⟩ := List.mem_filterMap.mp gone
    cases told with
    | destroyed other =>
      obtain rfl : other = task := Option.some.inj same
      exact gets_of_dropped run listed (if_pos rfl) silent
    | _ => cases same
  case swept => exact fun none => bequest.swept (.inr none)
  case left =>
    intro task inside
    obtain ⟨known, unended, -⟩ := apart_of_arrived run halted inside
    refine ⟨known, bequest.fst_ended ▸ unended, fun later after onward alive => ?_⟩
    obtain ⟨still, same⟩ := lasts_of_run run halted onward
    exact pending_of_arrived (run.append onward) still (same alive ▸ inside)
  case refused =>
    intro task turned
    have idle : task ∉ (runs past).map Prod.fst := by
      intro ran
      have known : task ∈ accepted past := by
        rw [bequest.accepted, bequest.fst_ended, List.append_assoc, List.append_assoc]
        exact List.mem_append_left _ ran
      exact (List.nodup_append.mp nodup).2.2 task known task turned rfl
    exact ⟨idle, gets_of_refused run turned (silent_of_idle run halted idle)⟩

/-- One task was run, one was received, one is in the channel, and one is refused. -/
theorem relinquished_between_tasks : ∃ tasks : Nat → Callback Unit Unit Nat, ∃ past now,
    Run (step tasks) ({} : HostDomain Nat Nat) past now ∧ now.stage = .givenUp ∧ now.lost = [] ∧
      accepted past = [0, 1, 2] ∧ runs past = [(0, ())] ∧ refused past = [3] ∧
        now.loop.arrived = [2] ∧ now.handles = 1 ∧ Relinquished tasks past now := by
  let tasks : Nat → Callback Unit Unit Nat := fun task =>
    { payload := (), function := fun _ _ => { outcome := .ok task, world := () } }
  let moves : List (Move Nat Unit Nat) :=
    [.schedule 0, .schedule 1, .drive 1 (.wait none), .receive, .receive, .schedule 2, .begin (),
      .advance ⟨⟨0⟩, ⟨5⟩⟩, .advance ⟨⟨0⟩, ⟨5⟩⟩, .advance ⟨⟨0⟩, ⟨5⟩⟩, .giveUp, .discard, .schedule 3]
  let past := Run.moments (step tasks) ({} : HostDomain Nat Nat) moves
  let now := Run.replay (step tasks) ({} : HostDomain Nat Nat) moves
  have run : Run (step tasks) {} past now := Run.of_moves ..
  have gone : now.stage = .givenUp := by decide +kernel
  have clean : now.lost = [] := by decide +kernel
  have accepts : accepted past = [0, 1, 2] := by decide +kernel
  have runs : runs past = [(0, ())] := by decide +kernel
  have refuses : refused past = [3] := by decide +kernel
  have arrived : now.loop.arrived = [2] := by decide +kernel
  have alive : now.handles = 1 := by decide +kernel
  exact ⟨tasks, past, now, run, gone, clean, accepts, runs, refuses, arrived, alive,
    relinquished_of_run run (.inr gone) clean⟩

/-- Not all drivers are released whose tasks were accepted: one that waits without a limit for a
task in the channel sleeps on when the domain is given up, as long as there is a sending end. -/
theorem not_forall_gets : ¬ ∀ (tasks : Nat → Callback Unit Unit Nat)
    (past : List (Moment (HostDomain Nat Nat) (Move Nat Unit Nat))) (now : HostDomain Nat Nat),
    Run (step tasks) {} past now → now.stage = .givenUp → now.lost = [] →
      ∀ task ∈ accepted past, ∃ completion,
        Handoff.Gets completion (own task past) (now.handoffs task) := by
  intro released
  let tasks : Nat → Callback Unit Unit Nat := fun task =>
    { payload := (), function := fun _ _ => { outcome := .ok task, world := () } }
  let moves : List (Move Nat Unit Nat) := [.schedule 0, .drive 0 (.wait none), .giveUp]
  let past := Run.moments (step tasks) ({} : HostDomain Nat Nat) moves
  let now := Run.replay (step tasks) ({} : HostDomain Nat Nat) moves
  have run : Run (step tasks) {} past now := Run.of_moves ..
  have gone : now.stage = .givenUp := by decide +kernel
  have clean : now.lost = [] := by decide +kernel
  have known : 0 ∈ accepted past := by decide +kernel
  have asleep : (now.handoffs 0).waiter = .asleep none := by decide +kernel
  obtain ⟨completion, gets⟩ := released tasks past now run gone clean 0 known
  exact gets.roused none asleep

end HostDomain
end CallbackFerry
