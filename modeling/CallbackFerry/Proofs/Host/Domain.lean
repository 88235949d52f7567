import CallbackFerry.Host.Domain
import CallbackFerry.Proofs.Handoff
import CallbackFerry.Proofs.HostLoop

/-!
# What the domain of the host does

A move of anybody in the domain of the host is one of a few changes: something happens to the
sending ends, a task is accepted or refused, a driver goes on with its handoff, the loop receives,
runs, notices or ends, or what is left of a domain that was given up is destroyed.  `Change` lists
them, each with what held before and with what is told about it, its `Event`; `step_change` reads
every possible move as one of them, and is the only place where the moves are taken apart.

A handoff is touched by the events of its own task only.  `own` picks what has happened to it, which
is a run of the handoff by itself (`own_run`), so that what is known of one handoff holds here.
-/

namespace CallbackFerry.HostDomain

variable {ι π ω ρ : Type} [DecidableEq ι] {tasks : ι → Callback π ω ρ}
  {domain before after now : HostDomain ι ρ} {move : Move ι ω ρ} {task : ι}
  {past : List (Moment (HostDomain ι ρ) (Move ι ω ρ))}

/-! ### Events -/

/-- What can be told about a move. -/
inductive Event (ι ω ρ : Type) where
  | accepted (task : ι)
  | refused (task : ι)
  /-- The driver of a task goes on. -/
  | acted (task : ι) (act : Handoff.Act ρ)
  /-- The function of a task is applied. -/
  | begun (task : ι) (world : ω)
  /-- The driver of a task is released. -/
  | released (task : ι) (outcome : Except Fault ρ)
  | ended (task : ι) (outcome : Except Fault ρ)
  /-- The end of a task is noticed. -/
  | noticed (task : ι) (fault : Option Fault)
  | destroyed (task : ι)

/-- What is told about a moment. -/
def event (moment : Moment (HostDomain ι ρ) (Move ι ω ρ)) : Option (Event ι ω ρ) :=
  match moment.move with
  | .schedule task => some (if moment.before.loop.closed then .refused task else .accepted task)
  | .drive task act => some (.acted task act)
  | .begin world => moment.before.loop.next?.map (.begun · world)
  | .advance _ =>
    moment.before.body.bind fun body =>
      if body.reached = 1 then some (.released body.task body.outcome)
      else if body.reached = 2 then some (.ended body.task body.outcome)
      else none
  | .notice index => moment.before.loop.ended[index]?.map fun entry => .noticed entry.1 entry.2
  | .discard => moment.before.lost.head?.map .destroyed
  | _ => none

/-- What is told about a run, oldest first. -/
def events (past : List (Moment (HostDomain ι ρ) (Move ι ω ρ))) : List (Event ι ω ρ) :=
  past.filterMap event

/-- What a move can be: what is told about it, and the domain afterwards. -/
inductive Change (tasks : ι → Callback π ω ρ) (before : HostDomain ι ρ) :
    Option (Event ι ω ρ) → HostDomain ι ρ → Prop
  /-- Something happens to the sending ends. -/
  | door {handles : Nat} {loop : HostLoop ι}
      (loop_eq : loop = before.loop ∨ loop = before.loop.close) (alive : before.handles ≠ 0)
      (held : handles ≠ 0 ∨ before.stage ≠ .givenUp) :
      Change tasks before none { before with handles := handles, loop := loop }
  | accepted {task : ι} (fresh : task ∉ before.offered) (opened : before.loop.closed = false) :
      Change tasks before (some (.accepted task))
        { before with
          offered := task :: before.offered
          loop := { before.loop with arrived := before.loop.arrived ++ [task] } }
  | refused {task : ι} {handoff : Handoff ρ} (fresh : task ∉ before.offered)
      (dropped : (before.handoffs task).drop = some handoff) :
      Change tasks before (some (.refused task))
        ({ before with offered := task :: before.offered }.put task handoff)
  | acted {task : ι} {act : Handoff.Act ρ} {handoff : Handoff ρ} (drivers : act.isDrivers = true)
      (made : (before.handoffs task).step act = some handoff) :
      Change tasks before (some (.acted task act)) (before.put task handoff)
  | received {task : ι} {rest : List ι} (selecting : before.stage = .selecting)
      (arrived : before.loop.arrived = task :: rest) :
      Change tasks before none
        { before with
          loop := { before.loop with
            arrived := rest
            started := before.loop.started ++ [task]
            executed := before.loop.executed + 1 } }
  | drained (selecting : before.stage = .selecting) :
      Change tasks before none { before with stage := .draining }
  | begun {task : ι} {world : ω} {metrics : Metrics} (idle : before.body = none)
      (going : before.loop.isOver = false) (next : before.loop.started.head? = some task) :
      Change tasks before (some (.begun task world))
        { before with
          body := some { task := task, outcome := ((tasks task).invoke world).outcome }
          metrics := metrics }
  | counted {body : Body ι ρ} {metrics : Metrics} (running : before.body = some body)
      (reached : body.reached = 0) :
      Change tasks before none
        { before with body := some { body with reached := 1 }, metrics := metrics }
  | released {body : Body ι ρ} {handoff : Handoff ρ} (running : before.body = some body)
      (reached : body.reached = 1)
      (completed : (before.handoffs body.task).complete (.ofOutcome body.outcome) = some handoff) :
      Change tasks before (some (.released body.task body.outcome))
        ({ before with body := some { body with reached := 2 } }.put body.task handoff)
  | ended {body : Body ι ρ} {task : ι} {rest : List ι} {handoff : Handoff ρ}
      (running : before.body = some body) (reached : body.reached = 2)
      (started : before.loop.started = task :: rest)
      (dropped : (before.handoffs body.task).drop = some handoff) :
      Change tasks before (some (.ended body.task body.outcome))
        ({ before with
          body := none
          loop := { before.loop with
            started := rest
            ended := before.loop.ended ++ [(task, faultOf body.outcome)] } }.put body.task handoff)
  | noticed {task : ι} {fault : Option Fault} {index : Nat} (going : before.loop.isOver = false)
      (here : before.loop.ended[index]? = some (task, fault)) :
      Change tasks before (some (.noticed task fault))
        { before with
          loop := { before.loop with ended := before.loop.ended.eraseIdx index }.observe fault }
  | finished (draining : before.stage = .draining) (closed : before.loop.closed = true)
      (arrived : before.loop.arrived = []) (started : before.loop.started = [])
      (ended : before.loop.ended = []) :
      Change tasks before none
        { before with loop := { before.loop with isOver := true }, stage := .done }
  /-- The domain is given up.  What was started is lost, and with it what is in the channel if
  nobody holds a sending end. -/
  | givenUp {lost arrived : List ι} (going : before.loop.isOver = false) (idle : before.body = none)
      (parted : before.loop.started ++ before.loop.arrived = lost ++ arrived)
      (held : before.handles = 0 → arrived = []) :
      Change tasks before none
        { before with
          loop := { before.loop with
            closed := true
            arrived := arrived
            started := []
            ended := []
            isOver := true }
          stage := .givenUp
          lost := lost }
  /-- The last sending end of a domain that was given up is dropped, and what is in the channel is
  lost. -/
  | swept (gone : before.stage = .givenUp) :
      Change tasks before none
        { before with
          handles := 0
          loop := { before.loop.close with arrived := [] }
          lost := before.lost ++ before.loop.arrived }
  | destroyed {task : ι} {rest : List ι} {handoff : Handoff ρ} (lost : before.lost = task :: rest)
      (dropped : (before.handoffs task).drop = some handoff) :
      Change tasks before (some (.destroyed task)) ({ before with lost := rest }.put task handoff)

theorem touch_eq_some {act : Handoff.Act ρ} (made : domain.touch task act = some after) :
    ∃ handoff, (domain.handoffs task).step act = some handoff ∧
      after = domain.put task handoff := by
  obtain ⟨handoff, acts, rfl⟩ := Option.map_eq_some_iff.mp made
  exact ⟨handoff, acts, rfl⟩

theorem release_change (made : before.release = some after) :
    Change tasks before (none : Option (Event ι ω ρ)) after := by
  unfold release at made
  split at made
  · cases made
  · next alive =>
    split at made
    · obtain rfl := Option.some.inj made
      unfold sweep
      split
      · next gone => exact .swept gone.1
      · next kept => exact .door (.inr rfl) alive (.inr fun gone => kept ⟨gone, rfl⟩)
    · next more =>
      obtain rfl := Option.some.inj made
      exact .door (.inl rfl) alive (.inl (by omega))

theorem schedule_change (made : before.schedule task = some after) :
    Change tasks before (event (ω := ω) ⟨before, .schedule task⟩) after := by
  unfold schedule at made
  split at made
  · cases made
  · next fresh =>
    rw [not_or] at fresh
    simp only [event]
    split at made
    · next loop accepted =>
      obtain ⟨opened, rfl⟩ := HostLoop.schedule_eq_some accepted
      obtain rfl := Option.some.inj made
      rw [if_neg (by simp [opened])]
      exact .accepted fresh.2 opened
    · next refused =>
      obtain ⟨handoff, dropped, rfl⟩ := touch_eq_some made
      rw [if_pos (HostLoop.schedule_eq_none_iff.mp refused)]
      exact .refused fresh.2 dropped

theorem begin_change {world : ω} (made : before.begin tasks world = some after) :
    Change tasks before (event ⟨before, .begin world⟩) after := by
  unfold begin at made
  split at made
  · next task idle next =>
    obtain rfl := Option.some.inj made
    obtain ⟨going, first⟩ := HostLoop.next?_eq_some next
    simp only [event, next, Option.map_some]
    exact .begun idle going first
  · cases made

/-- A task is counted, then its driver is released, and then it has ended. -/
theorem advance_change {timing : Timing} (made : before.advance timing = some after) :
    Change tasks before (event (ω := ω) ⟨before, .advance timing⟩) after := by
  unfold advance at made
  split at made
  · next body running =>
    simp only [event, running, Option.bind_some]
    match reached : body.reached with
    | 0 =>
      rw [reached] at made
      obtain rfl := Option.some.inj made
      exact .counted running reached
    | 1 =>
      rw [reached] at made
      obtain ⟨handoff, completed, rfl⟩ := Option.map_eq_some_iff.mp made
      exact .released running reached completed
    | 2 =>
      -- The task leaves the loop, and the host's half of its handoff is dropped.
      rw [reached] at made
      simp only [milestones, List.getElem?_cons_succ, List.getElem?_cons_zero] at made
      split at made
      · next loop ran =>
        obtain ⟨-, task, rest, started, rfl⟩ := HostLoop.ran_eq_some ran
        obtain ⟨handoff, dropped, rfl⟩ := touch_eq_some made
        exact .ended running reached started dropped
      · cases made
    | more + 3 =>
      -- There are three milestones.
      rw [reached] at made
      cases made
  · cases made

theorem step_change (made : before.step tasks move = some after) :
    Change tasks before (event ⟨before, move⟩) after := by
  cases move with
  | clone =>
    simp only [step, clone] at made
    split at made
    · cases made
    · next alive =>
      obtain rfl := Option.some.inj made
      exact .door (.inl rfl) alive (.inl (Nat.succ_ne_zero _))
  | release => exact release_change made
  | close =>
    simp only [step, close] at made
    split at made
    · cases made
    · next alive =>
      obtain rfl := Option.some.inj made
      exact .door (.inr rfl) alive (.inl alive)
  | schedule task => exact schedule_change made
  | drive task act =>
    simp only [step] at made
    split at made
    · next drivers =>
      obtain ⟨handoff, acts, rfl⟩ := touch_eq_some made
      exact .acted drivers acts
    · cases made
  | receive =>
    simp only [step, receive] at made
    split at made
    · next selecting =>
      obtain ⟨loop, received, rfl⟩ := Option.map_eq_some_iff.mp made
      obtain ⟨-, task, rest, arrived, rfl⟩ := HostLoop.receive_eq_some received
      exact .received selecting arrived
    · cases made
  | drain =>
    simp only [step, drain] at made
    split at made
    · next selecting =>
      obtain rfl := Option.some.inj made
      exact .drained selecting.1
    · cases made
  | begin world => exact begin_change made
  | advance timing => exact advance_change made
  | notice index =>
    obtain ⟨loop, noticed, rfl⟩ := Option.map_eq_some_iff.mp made
    obtain ⟨going, task, fault, here, rfl⟩ := HostLoop.notice_eq_some noticed
    simp only [event, here, Option.map_some]
    exact .noticed going here
  | finish =>
    simp only [step, finish] at made
    split at made
    · next draining =>
      obtain ⟨loop, finished, rfl⟩ := Option.map_eq_some_iff.mp made
      obtain ⟨closed, arrived, started, ended, rfl⟩ := HostLoop.finish_eq_some finished
      exact .finished draining closed arrived started ended
    · cases made
  | giveUp =>
    simp only [step, giveUp] at made
    split at made
    · next going =>
      obtain rfl := Option.some.inj made
      have idle : before.body = none := Option.isNone_iff_eq_none.mp going.2
      unfold sweep
      split
      · exact .givenUp going.1 idle (List.append_nil _).symm fun _ => rfl
      · next held => exact .givenUp going.1 idle rfl fun none => absurd ⟨rfl, none⟩ held
    · cases made
  | discard =>
    simp only [step, discard] at made
    split at made
    · next task rest lost =>
      obtain ⟨handoff, dropped, rfl⟩ := touch_eq_some made
      simp only [event, lost, List.head?_cons, Option.map_some]
      exact .destroyed lost dropped
    · cases made

/-! ### The handoffs -/

/-- What an event does to the handoff of a task, if it does anything to it. -/
def Event.actOn (task : ι) : Event ι ω ρ → Option (Handoff.Act ρ)
  | .refused other | .ended other _ | .destroyed other => if other = task then some .drop else none
  | .acted other act => if other = task then some act else none
  | .released other outcome => if other = task then some (.signal outcome) else none
  | .accepted _ | .begun .. | .noticed .. => none

/-- What has happened to the handoff of a task. -/
def own (task : ι) (past : List (Moment (HostDomain ι ρ) (Move ι ω ρ))) :
    List (Moment (Handoff ρ) (Handoff.Act ρ)) :=
  past.filterMap (Moment.seen (fun domain => domain.handoffs task) fun before move =>
    (event ⟨before, move⟩).bind (Event.actOn task))

theorem follows_put {handoff : Handoff ρ} {act : Handoff.Act ρ} {other : ι}
    (made : (before.handoffs other).step act = some handoff)
    (others : domain.handoffs = before.handoffs) (task : ι) :
    Follows Handoff.step (before.handoffs task) (if other = task then some act else none)
      ((domain.put other handoff).handoffs task) := by
  show Follows _ _ _ (if task = other then handoff else domain.handoffs task)
  by_cases same : other = task
  · subst same
    rw [if_pos rfl, if_pos rfl]
    exact made
  · rw [if_neg same, if_neg (Ne.symm same), others]
    rfl

theorem Change.follows {event : Option (Event ι ω ρ)} (change : Change tasks before event after)
    (task : ι) : Follows Handoff.step (before.handoffs task) (event.bind (Event.actOn task))
      (after.handoffs task) := by
  cases change with
  -- These change no handoff, and the others that of their own task.
  | door | accepted | received | drained | begun | counted | noticed | finished | givenUp |
    swept => rfl
  | @refused other handoff fresh dropped =>
    have acts : (before.handoffs other).step .drop = some handoff := dropped
    exact follows_put acts rfl task
  | acted drivers made => exact follows_put made rfl task
  | @released body handoff running reached completed =>
    have acts : (before.handoffs body.task).step (.signal body.outcome) = some handoff := completed
    exact follows_put acts rfl task
  | @ended body _ rest handoff running reached started dropped =>
    have acts : (before.handoffs body.task).step .drop = some handoff := dropped
    exact follows_put acts rfl task
  | @destroyed other rest handoff lost dropped =>
    have acts : (before.handoffs other).step .drop = some handoff := dropped
    exact follows_put acts rfl task

/-- What happens to the handoff of a task is a run of its own. -/
theorem own_run (run : Run (step tasks) ({} : HostDomain ι ρ) past now) (task : ι) :
    Run Handoff.step ({} : Handoff ρ) (own task past) (now.handoffs task) :=
  run.seen fun _ _ _ made => (step_change made).follows task

/-- What was done to the handoff of a task is what the events do to it. -/
theorem map_move_own (task : ι) : (own task past).map Moment.move =
    (events past).filterMap (Event.actOn task) := by
  rw [own, events, List.map_filterMap, List.filterMap_filterMap]
  congr 1
  funext moment
  rw [Moment.seen, Option.map_map]
  exact Option.map_id'

end CallbackFerry.HostDomain
