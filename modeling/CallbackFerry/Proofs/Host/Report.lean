import CallbackFerry.Proofs.Host.Domain

/-!
# What the loop of the host reports

What has happened in the domain of the host is told by its `events`, and by the lists that are made
of them: the tasks that were `accepted` and `refused`, those that were run, those whose drivers were
`released`, and those that have `ended` and were `noticed`.  `Orderly` says how these lists belong
together as long as the domain is not given up: what was accepted has ended, was started, or is in
the channel, in this order.  `Observed` says that no end is lost between its task and whoever
notices it, in both stages of the loop, and `Distinct` that no task was given away twice.

Nothing is left when the loop comes to its end (`Settled`), and then the lists are as long as they
will be.  `concluded_of_report` puts this together with what comes through the handoffs: the report
counts what was accepted and what broke off, and every driver is told how its own task ended.
-/

namespace CallbackFerry.HostDomain

variable {ι π ω ρ : Type} {tasks : ι → Callback π ω ρ}
  {domain before after now : HostDomain ι ρ} {task : ι} {event : Option (Event ι ω ρ)}

/-! ### What events tell -/

/-- A moment in which a task begins or ends. -/
inductive Footstep (ι : Type) where
  | begun (task : ι)
  | ended (task : ι)

namespace Event

/-- The task that was accepted, if one was. -/
def accepted? : Event ι ω ρ → Option ι
  | .accepted task => some task
  | _ => none

/-- The task that was refused, if one was. -/
def refused? : Event ι ω ρ → Option ι
  | .refused task => some task
  | _ => none

/-- The task that has begun and the world in which its function was applied, if one has. -/
def run? : Event ι ω ρ → Option (ι × ω)
  | .begun task world => some (task, world)
  | _ => none

/-- The task whose driver was released, and what its function came to, if one was. -/
def released? : Event ι ω ρ → Option (ι × Except Fault ρ)
  | .released task outcome => some (task, outcome)
  | _ => none

/-- The task that has ended, and what its function came to, if one has. -/
def ended? : Event ι ω ρ → Option (ι × Except Fault ρ)
  | .ended task outcome => some (task, outcome)
  | _ => none

/-- The task whose end was noticed, and its fault if it broke off, if one was. -/
def noticed? : Event ι ω ρ → Option (ι × Option Fault)
  | .noticed task fault => some (task, fault)
  | _ => none

/-- The task that has begun or ended, if one has. -/
def footstep? : Event ι ω ρ → Option (Footstep ι)
  | .begun task _ => some (.begun task)
  | .ended task _ => some (.ended task)
  | _ => none

end Event

/-- A task that begins, and then ends. -/
def legs (task : ι) : List (Footstep ι) :=
  [.begun task, .ended task]

/-- A task and what its function comes to in a world. -/
def outcome (tasks : ι → Callback π ω ρ) (run : ι × ω) : ι × Except Fault ρ :=
  (run.1, ((tasks run.1).invoke run.2).outcome)

/-- The task that is being run, and what its function came to. -/
def inHand (domain : HostDomain ι ρ) : List (ι × Except Fault ρ) :=
  domain.body.toList.map fun body => (body.task, body.outcome)

/-- The task that is being run, if its driver is released already. -/
def freed (domain : HostDomain ι ρ) : List (ι × Except Fault ρ) :=
  (domain.body.toList.filter fun body => body.reached = 2).map fun body => (body.task, body.outcome)

theorem inHand_of_idle (idle : domain.body = none) : domain.inHand = [] := by
  rw [inHand, idle]
  rfl

theorem freed_of_idle (idle : domain.body = none) : domain.freed = [] := by
  rw [freed, idle]
  rfl

variable {body : Body ι ρ}

theorem inHand_of_running (running : domain.body = some body) :
    domain.inHand = [(body.task, body.outcome)] := by
  rw [inHand, running]
  rfl

theorem freed_of_running (running : domain.body = some body) :
    domain.freed = if body.reached = 2 then [(body.task, body.outcome)] else [] := by
  rw [freed, running, Option.toList_some, List.filter_singleton, Bool.cond_decide]
  split <;> rfl

section Invariants

/-! ### Order -/

/-- Whether the tasks are run in the order in which they were accepted, as far as they were run. -/
structure Orderly (tasks : ι → Callback π ω ρ) (accepted : List ι) (runs : List (ι × ω))
    (released ended : List (ι × Except Fault ρ)) (footsteps : List (Footstep ι))
    (now : HostDomain ι ρ) : Prop where
  /-- What was accepted has ended, or was started, or is in the channel. -/
  accepted : accepted = ended.map Prod.fst ++ now.loop.started ++ now.loop.arrived
  /-- What has begun has ended, or is being run, -/
  begun : runs.map (outcome tasks) = ended ++ now.inHand
  /-- and what was released as well. -/
  released : released = ended ++ now.freed
  /-- Tasks are run one at a time. -/
  footsteps : footsteps =
    ended.flatMap (fun entry => legs entry.1) ++ now.inHand.map fun entry => .begun entry.1
  executed : now.loop.executed = ended.length + now.loop.started.length
  /-- The task that is being run was started first. -/
  first : ∀ body, now.body = some body → now.loop.started.head? = some body.task

theorem first_of_started {first : ι} {started rest : List ι} (head : started.head? = some first)
    (started_eq : started = task :: rest) : task = first := by
  rw [started_eq] at head
  exact Option.some.inj head

variable [DecidableEq ι] {accepted refused : List ι} {runs : List (ι × ω)}
  {released ended : List (ι × Except Fault ρ)} {footsteps : List (Footstep ι)}
  {noticed : List (ι × Option Fault)}

theorem Orderly.change (orderly : Orderly tasks accepted runs released ended footsteps before)
    (change : Change tasks before event after) (kept : after.stage ≠ .givenUp) :
    Orderly tasks (accepted ++ (event.bind Event.accepted?).toList)
      (runs ++ (event.bind Event.run?).toList) (released ++ (event.bind Event.released?).toList)
      (ended ++ (event.bind Event.ended?).toList)
      (footsteps ++ (event.bind Event.footstep?).toList) after := by
  obtain ⟨accepted_eq, begun_eq, released_eq, footsteps_eq, executed_eq, first⟩ := orderly
  -- Most events add nothing to most of the lists.
  cases change with
    simp only [Option.bind_none, Option.bind_some, Event.accepted?, Event.run?, Event.released?,
      Event.ended?, Event.footstep?, Option.toList_none, Option.toList_some, List.append_nil]
  | door loop_eq =>
    rcases loop_eq with rfl | rfl <;>
      exact ⟨accepted_eq, begun_eq, released_eq, footsteps_eq, executed_eq, first⟩
  | accepted fresh opened =>
    refine ⟨?_, begun_eq, released_eq, footsteps_eq, executed_eq, first⟩
    rw [accepted_eq, List.append_assoc]
  | refused | acted | destroyed =>
    exact ⟨accepted_eq, begun_eq, released_eq, footsteps_eq, executed_eq, first⟩
  | @noticed task fault index going here =>
    -- What is noticed is gone from the loop, but it had ended before.
    cases fault <;> exact ⟨accepted_eq, begun_eq, released_eq, footsteps_eq, executed_eq, first⟩
  | @received task rest selecting arrived =>
    -- The oldest task of the channel becomes the last one that was started.
    refine ⟨?_, begun_eq, released_eq, footsteps_eq, ?_, fun body running => ?_⟩
    · show accepted = ended.map Prod.fst ++ (before.loop.started ++ [task]) ++ rest
      rw [accepted_eq, arrived]
      simp only [List.append_assoc, List.cons_append, List.nil_append]
    · show before.loop.executed + 1 = ended.length + (before.loop.started ++ [task]).length
      rw [executed_eq, List.length_append, List.length_singleton, Nat.add_assoc]
    · show (before.loop.started ++ [task]).head? = some body.task
      rw [List.head?_append, first body running]
      rfl
  | drained selecting =>
    exact ⟨accepted_eq, begun_eq, released_eq, footsteps_eq, executed_eq, first⟩
  | @begun task world metrics idle going next =>
    -- Nothing was in hand, so what has ended before is all that has begun.
    rw [inHand_of_idle idle, List.append_nil] at begun_eq
    rw [freed_of_idle idle, List.append_nil] at released_eq
    rw [inHand_of_idle idle, List.map_nil, List.append_nil] at footsteps_eq
    refine ⟨accepted_eq, ?_, ?_, ?_, executed_eq, fun body running => ?_⟩
    · rw [List.map_append, begun_eq]
      rfl
    · rw [released_eq]
      exact (List.append_nil _).symm
    · rw [footsteps_eq]
      rfl
    · obtain rfl := Option.some.inj running
      exact next
  | @counted body metrics running reached =>
    rw [inHand_of_running running] at begun_eq footsteps_eq
    rw [freed_of_running running, if_neg (by simp [reached])] at released_eq
    refine ⟨accepted_eq, begun_eq, released_eq, footsteps_eq, executed_eq, fun later running' => ?_⟩
    obtain rfl := Option.some.inj running'
    exact first body running
  | @released body handoff running reached completed =>
    rw [inHand_of_running running] at begun_eq footsteps_eq
    rw [freed_of_running running, if_neg (by simp [reached]), List.append_nil] at released_eq
    refine ⟨accepted_eq, begun_eq, ?_, footsteps_eq, executed_eq, fun later running' => ?_⟩
    · rw [released_eq]
      rfl
    · obtain rfl := Option.some.inj running'
      exact first body running
  | @ended body task rest handoff running reached started dropped =>
    -- The task that has ended is the one that was started first.
    obtain rfl : task = body.task := first_of_started (first body running) started
    rw [inHand_of_running running] at begun_eq footsteps_eq
    rw [freed_of_running running, if_pos reached] at released_eq
    refine ⟨?_, ?_, ?_, ?_, ?_, fun later running' => ?_⟩
    · show accepted =
        (ended ++ [(body.task, body.outcome)]).map Prod.fst ++ rest ++ before.loop.arrived
      rw [accepted_eq, started, List.map_append]
      simp only [List.append_assoc, List.cons_append, List.nil_append, List.map_cons, List.map_nil]
    · rw [begun_eq]
      exact (List.append_nil _).symm
    · rw [released_eq]
      exact (List.append_nil _).symm
    · rw [footsteps_eq, List.flatMap_append, List.append_assoc]
      exact (List.append_nil _).symm
    · show before.loop.executed = (ended ++ [(body.task, body.outcome)]).length + rest.length
      rw [executed_eq, started, List.length_append, List.length_cons, List.length_singleton]
      omega
    · cases running'
  | finished draining closed arrived started ended =>
    exact ⟨accepted_eq, begun_eq, released_eq, footsteps_eq, executed_eq, first⟩
  | givenUp => exact absurd rfl kept
  | swept gone => exact absurd gone kept

/-! ### Faults -/

/-- Whether every end was noticed or is yet to be noticed, and the hook was given the faults. -/
structure Observed (noticed : List (ι × Option Fault)) (ended : List (ι × Except Fault ρ))
    (now : HostDomain ι ρ) : Prop where
  /-- Every task that has ended was noticed once, or will be. -/
  once : (noticed ++ now.loop.ended).Perm (ended.map fun entry => (entry.1, faultOf entry.2))
  /-- The hook was given every fault that was noticed. -/
  hooked : now.loop.hooked.reverse = noticed.filterMap Prod.snd
  faults : now.loop.faults = now.loop.hooked.length

theorem Observed.change (observed : Observed noticed ended before)
    (first : ∀ body, before.body = some body → before.loop.started.head? = some body.task)
    (change : Change tasks before event after) (kept : after.stage ≠ .givenUp) :
    Observed (noticed ++ (event.bind Event.noticed?).toList)
      (ended ++ (event.bind Event.ended?).toList) after := by
  obtain ⟨noticed_eq, hooked, faults⟩ := observed
  cases change with
    simp only [Option.bind_none, Option.bind_some, Event.noticed?, Event.ended?, Option.toList_none,
      Option.toList_some, List.append_nil]
  | door loop_eq =>
    rcases loop_eq with rfl | rfl <;> exact ⟨noticed_eq, hooked, faults⟩
  | received | drained | counted | finished | accepted | refused | acted | begun | released |
    destroyed =>
    exact ⟨noticed_eq, hooked, faults⟩
  | @ended body task rest handoff running reached started dropped =>
    obtain rfl : task = body.task := first_of_started (first body running) started
    refine ⟨?_, hooked, faults⟩
    rw [List.map_append]
    show (noticed ++ (before.loop.ended ++ _)).Perm _
    rw [← List.append_assoc]
    exact noticed_eq.append_right _
  | @noticed task fault index going here =>
    obtain ⟨within, same⟩ := List.getElem?_eq_some_iff.mp here
    -- What is noticed moves from one list to the other.
    have moved : (noticed ++ [(task, fault)] ++ before.loop.ended.eraseIdx index).Perm
        (noticed ++ before.loop.ended) := by
      rw [List.append_assoc, ← same]
      exact (List.getElem_cons_eraseIdx_perm within).append_left noticed
    cases fault with
    | none =>
      refine ⟨moved.trans noticed_eq, ?_, faults⟩
      rw [List.filterMap_append]
      exact hooked.trans (List.append_nil _).symm
    | some cause =>
      refine ⟨moved.trans noticed_eq, ?_, ?_⟩
      · show (cause :: before.loop.hooked).reverse = _
        rw [List.reverse_cons, hooked, List.filterMap_append]
        rfl
      · show before.loop.faults + 1 = (cause :: before.loop.hooked).length
        rw [faults, List.length_cons]
  | givenUp => exact absurd rfl kept
  | swept gone => exact absurd gone kept

/-! ### Tasks that were given away -/

/-- Whether no task was given away twice. -/
structure Distinct (accepted refused : List ι) (now : HostDomain ι ρ) : Prop where
  offered : (accepted ++ refused).Perm now.offered
  nodup : now.offered.Nodup

theorem Distinct.change (distinct : Distinct accepted refused before)
    (change : Change tasks before event after) :
    Distinct (accepted ++ (event.bind Event.accepted?).toList)
      (refused ++ (event.bind Event.refused?).toList) after := by
  obtain ⟨offered, nodup⟩ := distinct
  cases change with
    simp only [Option.bind_none, Option.bind_some, Event.accepted?, Event.refused?,
      Option.toList_none, Option.toList_some, List.append_nil]
  | door | received | drained | counted | finished | acted | begun | released | ended | noticed |
    givenUp | swept | destroyed =>
    exact ⟨offered, nodup⟩
  | @accepted task fresh opened =>
    refine ⟨?_, List.nodup_cons.mpr ⟨fresh, nodup⟩⟩
    rw [List.append_assoc]
    exact List.perm_middle.trans (offered.cons task)
  | @refused task handoff fresh dropped =>
    refine ⟨?_, List.nodup_cons.mpr ⟨fresh, nodup⟩⟩
    rw [← List.append_assoc]
    exact (List.perm_append_singleton task _).trans (offered.cons task)

/-! ### The end -/

/-- Whether nothing is left, if the loop has come to its end. -/
structure Settled (now : HostDomain ι ρ) : Prop where
  isOver : now.loop.isOver = true
  closed : now.loop.closed = true
  arrived : now.loop.arrived = []
  started : now.loop.started = []
  ended : now.loop.ended = []
  idle : now.body = none

theorem settled_of_change (settled : before.stage = .done → Settled before)
    (first : ∀ body, before.body = some body → before.loop.started.head? = some body.task)
    (change : Change tasks before event after) (done : after.stage = .done) : Settled after := by
  cases change with
  | door loop_eq =>
    obtain ⟨isOver, closed, arrived, started, ended, idle⟩ := settled done
    rcases loop_eq with rfl | rfl
    · exact ⟨isOver, closed, arrived, started, ended, idle⟩
    · exact ⟨isOver, rfl, arrived, started, ended, idle⟩
  | accepted fresh opened =>
    rw [(settled done).closed] at opened
    cases opened
  | refused | acted | destroyed =>
    obtain ⟨isOver, closed, arrived, started, ended, idle⟩ := settled done
    exact ⟨isOver, closed, arrived, started, ended, idle⟩
  | received selecting =>
    rw [show before.stage = .done from done] at selecting
    cases selecting
  | drained => cases done
  | begun idle going =>
    rw [(settled done).isOver] at going
    cases going
  | counted running | released running | ended running =>
    rw [(settled done).idle] at running
    cases running
  | noticed going =>
    rw [(settled done).isOver] at going
    cases going
  | finished draining closed arrived started ended =>
    -- A task that is being run was started, and nothing is.
    have idle : before.body = none := by
      by_contra busy
      obtain ⟨body, running⟩ := Option.ne_none_iff_exists'.mp busy
      have head := first body running
      rw [started] at head
      cases head
    exact ⟨rfl, closed, arrived, started, ended, idle⟩
  | givenUp => cases done
  | swept gone =>
    rw [show before.stage = .done from done] at gone
    cases gone

theorem Change.kept (change : Change tasks before event after) (kept : after.stage ≠ .givenUp) :
    before.stage ≠ .givenUp := by
  intro gone
  cases change with
  | received selecting | drained selecting | finished selecting =>
    rw [gone] at selecting
    cases selecting
  | givenUp => exact kept rfl
  | _ => exact kept gone

end Invariants

/-! ### Runs -/

variable {past : List (Moment (HostDomain ι ρ) (Move ι ω ρ))} {report : HostReport}

/-- The tasks that were accepted, in this order. -/
def accepted (past : List (Moment (HostDomain ι ρ) (Move ι ω ρ))) : List ι :=
  (events past).filterMap Event.accepted?

/-- The tasks that were refused. -/
def refused (past : List (Moment (HostDomain ι ρ) (Move ι ω ρ))) : List ι :=
  (events past).filterMap Event.refused?

/-- The tasks whose functions were applied, each with the world it was applied in. -/
def runs (past : List (Moment (HostDomain ι ρ) (Move ι ω ρ))) : List (ι × ω) :=
  (events past).filterMap Event.run?

/-- The tasks whose drivers were released, and what their functions came to. -/
def released (past : List (Moment (HostDomain ι ρ) (Move ι ω ρ))) : List (ι × Except Fault ρ) :=
  (events past).filterMap Event.released?

/-- The tasks that have ended, and what their functions came to. -/
def ended (past : List (Moment (HostDomain ι ρ) (Move ι ω ρ))) : List (ι × Except Fault ρ) :=
  (events past).filterMap Event.ended?

/-- The tasks whose ends were noticed, each with its fault if it broke off. -/
def noticed (past : List (Moment (HostDomain ι ρ) (Move ι ω ρ))) : List (ι × Option Fault) :=
  (events past).filterMap Event.noticed?

/-- When tasks have begun and ended. -/
def footsteps (past : List (Moment (HostDomain ι ρ) (Move ι ω ρ))) : List (Footstep ι) :=
  (events past).filterMap Event.footstep?

theorem report?_eq_some (reported : now.report? = some report) :
    now.stage = .done ∧ report = ⟨now.loop.executed, now.loop.faults⟩ := by
  unfold report? at reported
  split at reported
  · next done => exact ⟨done, (Option.some.inj reported).symm⟩
  · cases reported

/-- What the last moment adds to a part of the record. -/
theorem filterMap_events_concat {β : Type} (part : Event ι ω ρ → Option β)
    (moment : Moment (HostDomain ι ρ) (Move ι ω ρ)) :
    (events (past ++ [moment])).filterMap part =
      (events past).filterMap part ++ ((HostDomain.event moment).bind part).toList := by
  rw [events, Run.filterMap_concat, List.filterMap_append, events]
  cases told : HostDomain.event moment with
  | none => rfl
  | some event => cases part event <;> rfl

/-- What holds of a domain as long as it is not given up. -/
structure Kept (tasks : ι → Callback π ω ρ) (past : List (Moment (HostDomain ι ρ) (Move ι ω ρ)))
    (now : HostDomain ι ρ) : Prop where
  orderly : Orderly tasks (accepted past) (runs past) (released past) (ended past)
    (footsteps past) now
  observed : Observed (noticed past) (ended past) now
  distinct : Distinct (accepted past) (refused past) now
  settled : now.stage = .done → Settled now

theorem Kept.ended_eq (kept : Kept tasks past now) (settled : Settled now) :
    ended past = (runs past).map (outcome tasks) := by
  rw [kept.orderly.begun, inHand_of_idle settled.idle, List.append_nil]

theorem Kept.released_eq (kept : Kept tasks past now) (settled : Settled now) :
    released past = (runs past).map (outcome tasks) := by
  rw [kept.orderly.released, freed_of_idle settled.idle, List.append_nil, kept.ended_eq settled]

theorem Kept.accepted_eq (kept : Kept tasks past now) (settled : Settled now) :
    accepted past = (runs past).map Prod.fst := by
  rw [kept.orderly.accepted, settled.started, settled.arrived, List.append_nil, List.append_nil,
    kept.ended_eq settled, List.map_map]
  rfl

theorem Kept.executed_eq (kept : Kept tasks past now) (settled : Settled now) :
    now.loop.executed = (accepted past).length := by
  have executed := kept.orderly.executed
  rw [settled.started, List.length_nil, Nat.add_zero, kept.ended_eq settled] at executed
  rw [executed, kept.accepted_eq settled, List.length_map, List.length_map]

theorem Kept.noticed_perm (kept : Kept tasks past now) (settled : Settled now) :
    (noticed past).Perm ((runs past).map fun run => (run.1, faultOf (outcome tasks run).2)) := by
  have once := kept.observed.once
  rw [settled.ended, List.append_nil, kept.ended_eq settled, List.map_map] at once
  exact once

theorem Kept.faults_eq (kept : Kept tasks past now) (settled : Settled now) :
    now.loop.faults = (runs past).countP fun run => (faultOf (outcome tasks run).2).isSome := by
  calc now.loop.faults
    _ = now.loop.hooked.reverse.length := by rw [kept.observed.faults, List.length_reverse]
    _ = ((noticed past).filterMap Prod.snd).length := by rw [kept.observed.hooked]
    _ = (noticed past).countP fun entry => entry.2.isSome := List.length_filterMap_eq_countP
    _ = _ := by
      rw [(kept.noticed_perm settled).countP_eq, List.countP_map]
      rfl

theorem Kept.alone (kept : Kept tasks past now) (settled : Settled now) :
    footsteps past = (accepted past).flatMap legs := by
  have steps := kept.orderly.footsteps
  rw [inHand_of_idle settled.idle, List.map_nil, List.append_nil, kept.ended_eq settled] at steps
  rw [steps, kept.accepted_eq settled, List.flatMap_map, List.flatMap_map]
  rfl

theorem Kept.not_accepted_of_refused (kept : Kept tasks past now) (turned : task ∈ refused past) :
    task ∉ accepted past := by
  intro known
  have apart := kept.distinct.offered.nodup_iff.mpr kept.distinct.nodup
  rw [List.nodup_append] at apart
  exact apart.2.2 task known task turned rfl

variable [DecidableEq ι]

theorem distinct_of_run (run : Run (step tasks) ({} : HostDomain ι ρ) past now) :
    Distinct (accepted past) (refused past) now := by
  induction run with
  | start => exact ⟨.nil, .nil⟩
  | next run made ih =>
    simp only [accepted, refused, filterMap_events_concat]
    exact ih.change (step_change made)

theorem kept_of_run (run : Run (step tasks) ({} : HostDomain ι ρ) past now)
    (kept : now.stage ≠ .givenUp) : Kept tasks past now := by
  have distinct := distinct_of_run run
  -- Three invariants are carried along together; only the second one needs the first.
  induction run with
  | start =>
    refine ⟨⟨rfl, rfl, rfl, rfl, rfl, fun body running => ?_⟩, ⟨.nil, rfl, rfl⟩, distinct,
      fun done => ?_⟩
    · cases running
    · cases done
  | next run made ih =>
    have change := step_change made
    obtain ⟨orderly, observed, -, settled⟩ := ih (change.kept kept) (distinct_of_run run)
    refine ⟨?_, ?_, distinct, settled_of_change settled orderly.first change⟩
    · simp only [accepted, runs, released, ended, footsteps, filterMap_events_concat]
      exact orderly.change change kept
    · simp only [noticed, ended, filterMap_events_concat]
      exact observed.change orderly.first change kept

/-- Only releasing the driver of a task signals its handoff. -/
theorem Change.signals {outcome : Except Fault ρ} (change : Change tasks before event after)
    (acts : event.bind (Event.actOn task) = some (.signal outcome)) :
    event = some (.released task outcome) := by
  -- Whatever else happens to a handoff, it is a drop or something that its driver does.
  have other : ∀ {task other : ι} {act : Handoff.Act ρ}, act ≠ .signal outcome →
      (if other = task then some act else none) ≠ some (.signal outcome) := by
    intro task other act different same
    split at same
    · exact different (Option.some.inj same)
    · cases same
  cases change with
  | door | received | drained | counted | finished | givenUp | swept => cases acts
  | accepted | begun | noticed => cases acts
  | refused | ended | destroyed => exact absurd acts (other (by simp))
  | acted drivers =>
    refine absurd acts (other ?_)
    rintro rfl
    cases drivers
  | @released body handoff running reached completed =>
    change (if body.task = task then some (Handoff.Act.signal body.outcome) else none) = _ at acts
    split at acts
    · next same =>
      obtain rfl := Handoff.Act.signal.inj (Option.some.inj acts)
      rw [same]
    · cases acts

/-- What was signalled to the driver of a task is what its function came to. -/
theorem released_of_signalled {outcome : Except Fault ρ}
    (run : Run (step tasks) ({} : HostDomain ι ρ) past now)
    (signalled : outcome ∈ (own task past).filterMap Handoff.signalled) :
    (task, outcome) ∈ released past := by
  obtain ⟨⟨handoff, act⟩, member, signals⟩ := List.mem_filterMap.mp signalled
  obtain ⟨moment, inPast, seen⟩ := List.mem_filterMap.mp member
  obtain ⟨act, acts, same⟩ := Option.map_eq_some_iff.mp seen
  obtain ⟨rfl, rfl⟩ := Moment.mk.inj same
  cases act with
  | signal other =>
    obtain rfl : other = outcome := Option.some.inj signals
    obtain ⟨-, -, after, -, -, made, -⟩ := run.of_mem inPast
    have told : event moment = some (.released task other) := (step_change made).signals acts
    have listed : Event.released task other ∈ events past :=
      List.mem_filterMap.mpr ⟨moment, inPast, told⟩
    exact List.mem_filterMap.mpr ⟨_, listed, rfl⟩
  | _ => cases signals

theorem exists_own_of_event {told : Event ι ω ρ} {act : Handoff.Act ρ} (listed : told ∈ events past)
    (acts : told.actOn task = some act) : ∃ moment ∈ own task past, moment.move = act := by
  have done : act ∈ (own task past).map Moment.move := by
    rw [map_move_own]
    exact List.mem_filterMap.mpr ⟨told, listed, acts⟩
  exact List.mem_map.mp done

theorem eq_error_of_faultOf {outcome : Except Fault ρ} {fault : Fault}
    (broke : faultOf outcome = some fault) : outcome = .error fault := by
  cases outcome with
  | ok result => cases broke
  | error cause =>
    obtain rfl := Option.some.inj broke
    rfl

/-- A driver whose task has ended gets what the function of the task came to. -/
theorem gets_of_released {outcome : Except Fault ρ}
    (run : Run (step tasks) ({} : HostDomain ι ρ) past now)
    (member : (task, outcome) ∈ released past) :
    Handoff.Gets (.ofOutcome outcome) (own task past) (now.handoffs task) := by
  obtain ⟨told, listed, same⟩ := List.mem_filterMap.mp member
  cases told with
  | released other result =>
    obtain ⟨rfl, rfl⟩ := Prod.mk.inj (Option.some.inj same)
    obtain ⟨moment, member, signals⟩ := exists_own_of_event listed (if_pos rfl)
    exact Handoff.gets_of_filled (own_run run other)
      (Handoff.filled_of_signal (own_run run other) member signals).1
  | _ => cases same

/-- A driver gets an abandonment if the host's half of its handoff was dropped and nothing had been
signalled. -/
theorem gets_of_dropped {told : Event ι ω ρ} (run : Run (step tasks) ({} : HostDomain ι ρ) past now)
    (listed : told ∈ events past) (drops : told.actOn task = some .drop)
    (silent : (own task past).filterMap Handoff.signalled = []) :
    Handoff.Gets .abandoned (own task past) (now.handoffs task) := by
  obtain ⟨moment, member, drops⟩ := exists_own_of_event listed drops
  exact Handoff.gets_of_filled (own_run run task)
    (Handoff.filled_of_drop (own_run run task) member drops silent)

theorem gets_of_refused (run : Run (step tasks) ({} : HostDomain ι ρ) past now)
    (member : task ∈ refused past) (silent : (own task past).filterMap Handoff.signalled = []) :
    Handoff.Gets .abandoned (own task past) (now.handoffs task) := by
  obtain ⟨told, listed, same⟩ := List.mem_filterMap.mp member
  cases told with
  | refused other =>
    obtain rfl : other = task := Option.some.inj same
    exact gets_of_dropped run listed (if_pos rfl) silent
  | _ => cases same

/-- What the report tells. -/
structure Concluded (tasks : ι → Callback π ω ρ)
    (past : List (Moment (HostDomain ι ρ) (Move ι ω ρ))) (now : HostDomain ι ρ)
    (report : HostReport) : Prop where
  /-- It tells how many tasks were accepted. -/
  executed : report.executed = (accepted past).length
  /-- No task was accepted twice. -/
  distinct : (accepted past).Nodup
  /-- The function of every task that was accepted was applied once, in the order in which the tasks
  were accepted. -/
  order : (runs past).map Prod.fst = accepted past
  /-- Every task has ended before the next one has begun. -/
  alone : footsteps past = (accepted past).flatMap legs
  /-- It tells how many functions broke off, -/
  faults : report.faults = (runs past).countP fun run => (faultOf (outcome tasks run).2).isSome
  /-- which is how often the hook was called. -/
  calls : now.loop.hooked.length = report.faults
  /-- The hook was given the faults that were noticed, in this order, -/
  hooked : now.loop.hooked.reverse = (noticed past).filterMap Prod.snd
  /-- and every task that has ended was noticed once, with its own fault if it broke off. -/
  observed : (noticed past).Perm ((runs past).map fun run => (run.1, faultOf (outcome tasks run).2))
  /-- The driver of a task that broke off gets the message that the hook was given. -/
  message : ∀ task fault, (task, some fault) ∈ noticed past →
    Handoff.Gets (.fault fault.text) (own task past) (now.handoffs task)
  /-- The driver of every task that was accepted gets what its function came to. -/
  told : ∀ run ∈ runs past,
    Handoff.Gets (.ofOutcome (outcome tasks run).2) (own run.1 past) (now.handoffs run.1)
  /-- A task that was refused was never run, and its driver gets an abandonment. -/
  turnedAway : ∀ task ∈ refused past, task ∉ (runs past).map Prod.fst ∧
    Handoff.Gets .abandoned (own task past) (now.handoffs task)

/-- In whatever order tasks are given away, sending ends are closed and dropped, and the loop
receives and notices, if the loop comes to its end the report is right. -/
theorem concluded_of_report (run : Run (step tasks) ({} : HostDomain ι ρ) past now)
    (reported : now.report? = some report) : Concluded tasks past now report := by
  obtain ⟨done, rfl⟩ := report?_eq_some reported
  have kept : Kept tasks past now := kept_of_run run (by simp [done])
  have settled : Settled now := kept.settled done
  have told : ∀ run ∈ runs past, Handoff.Gets (.ofOutcome (outcome tasks run).2) (own run.1 past)
      (now.handoffs run.1) := by
    intro run' ran
    have listed : outcome tasks run' ∈ released past := by
      rw [kept.released_eq settled]
      exact List.mem_map_of_mem ran
    exact gets_of_released run listed
  constructor
  case executed => exact kept.executed_eq settled
  case distinct =>
    have apart := kept.distinct.offered.nodup_iff.mpr kept.distinct.nodup
    exact (List.nodup_append.mp apart).1
  case order => exact (kept.accepted_eq settled).symm
  case alone => exact kept.alone settled
  case faults => exact kept.faults_eq settled
  case calls => exact kept.observed.faults.symm
  case hooked => exact kept.observed.hooked
  case observed => exact kept.noticed_perm settled
  case message =>
    intro task fault member
    obtain ⟨run', ran, same⟩ := List.mem_map.mp ((kept.noticed_perm settled).mem_iff.mp member)
    obtain ⟨rfl, broke⟩ := Prod.mk.inj same
    have gets := told run' ran
    rw [eq_error_of_faultOf broke] at gets
    exact gets
  case told => exact told
  case turnedAway =>
    intro task turned
    have unknown : task ∉ accepted past := kept.not_accepted_of_refused turned
    rw [kept.accepted_eq settled] at unknown
    -- What was signalled to its driver would be what its function came to, but that never ran.
    have silent : (own task past).filterMap Handoff.signalled = [] := by
      refine List.eq_nil_iff_forall_not_mem.mpr fun result signalled => unknown ?_
      have listed := released_of_signalled run signalled
      rw [kept.released_eq settled] at listed
      obtain ⟨run', ran, same⟩ := List.mem_map.mp listed
      exact List.mem_map.mpr ⟨run', ran, congrArg Prod.fst same⟩
    exact ⟨unknown, gets_of_refused run turned silent⟩

/-- One task breaks off; the channel is closed, and what is in it by then is run all the same, but
the next task is refused. -/
theorem concluded_of_refusal : ∃ tasks : Nat → Callback Unit Unit Nat, ∃ past now,
    Run (step tasks) ({} : HostDomain Nat Nat) past now ∧ now.report? = some ⟨2, 1⟩ ∧
      accepted past = [0, 1] ∧ refused past = [2] ∧
        noticed past = [(0, some (.message "lost")), (1, none)] ∧
          Concluded tasks past now ⟨2, 1⟩ := by
  let tasks : Nat → Callback Unit Unit Nat := fun task =>
    { payload := ()
      function := fun _ _ =>
        { outcome := if task = 0 then .error (.message "lost") else .ok task
          world := () } }
  let moves : List (Move Nat Unit Nat) :=
    [.schedule 0, .drive 0 (.wait none), .receive, .schedule 1, .close, .schedule 2, .begin (),
      .advance ⟨⟨0⟩, ⟨5⟩⟩, .advance ⟨⟨0⟩, ⟨5⟩⟩, .drive 0 .look, .drive 0 .leave,
      .advance ⟨⟨0⟩, ⟨5⟩⟩, .receive, .notice 0, .drain, .begin (), .advance ⟨⟨0⟩, ⟨3⟩⟩,
      .advance ⟨⟨0⟩, ⟨3⟩⟩, .advance ⟨⟨0⟩, ⟨3⟩⟩, .notice 0, .release, .finish]
  let past := Run.moments (step tasks) ({} : HostDomain Nat Nat) moves
  let now := Run.replay (step tasks) ({} : HostDomain Nat Nat) moves
  have run : Run (step tasks) {} past now := Run.of_moves ..
  have reported : now.report? = some ⟨2, 1⟩ := by decide +kernel
  have accepts : accepted past = [0, 1] := by decide +kernel
  have refuses : refused past = [2] := by decide +kernel
  have notices : noticed past = [(0, some (.message "lost")), (1, none)] := by decide +kernel
  exact ⟨tasks, past, now, run, reported, accepts, refuses, notices,
    concluded_of_report run reported⟩

end CallbackFerry.HostDomain
