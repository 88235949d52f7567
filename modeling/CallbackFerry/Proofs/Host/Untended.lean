import CallbackFerry.Proofs.Host.Report

/-!
# Domains that go on by themselves

A domain goes on without any driver: tasks are given to it, and its loop receives, runs and notices
them, while nobody waits at the handoffs.  What the handoffs hold is known then, but for those of
tasks that the loop is through with (`Untended`), and it never stands in the way of the loop.

`Quiet` domains are those that can be reached so.  Whoever has a loop of its own, and other means
than handoffs to tell the drivers, can show with them that its loop is one of a domain.
-/

namespace CallbackFerry.HostDomain

variable {ι π ω ρ : Type} {tasks : ι → Callback π ω ρ} {before after now : HostDomain ι ρ}
  {event : Option (Event ι ω ρ)} {move : Move ι ω ρ} {task : ι}
  {past : List (Moment (HostDomain ι ρ) (Move ι ω ρ))}

/-! ### What is in the loop -/

theorem Kept.perm_offered (kept : Kept tasks past now) :
    (ended past |>.map Prod.fst) ++ now.loop.started ++ now.loop.arrived ++ refused past
      |>.Perm now.offered := by
  rw [← kept.orderly.accepted]
  exact kept.distinct.offered

/-- What is in the loop was given to it. -/
theorem Kept.mem_offered (kept : Kept tasks past now)
    (inside : task ∈ now.loop.started ++ now.loop.arrived) : task ∈ now.offered := by
  refine kept.perm_offered.mem_iff.mp ?_
  rw [List.append_assoc (List.map ..)]
  exact List.mem_append_left _ (List.mem_append_right _ inside)

/-- Nothing is in the loop twice. -/
theorem Kept.nodup (kept : Kept tasks past now) :
    (now.loop.started ++ now.loop.arrived).Nodup := by
  have nodup := kept.perm_offered.nodup_iff.mpr kept.distinct.nodup
  rw [List.append_assoc (List.map ..)] at nodup
  exact (List.nodup_append.mp (List.nodup_append.mp nodup).1).2.1

/-! ### Without drivers -/

/-- Whether neither a driver goes on nor a task is destroyed. -/
def Event.isQuiet : Event ι ω ρ → Bool
  | .acted .. | .destroyed _ => false
  | _ => true

/-- Whether neither a driver makes the move nor a task is destroyed by it. -/
def Move.isQuiet : Move ι ω ρ → Bool
  | .drive .. | .discard => false
  | _ => true

theorem isQuiet_of_event {told : Event ι ω ρ} (quiet : move.isQuiet = true)
    (tells : HostDomain.event ⟨before, move⟩ = some told) : told.isQuiet = true := by
  cases move with
  | drive | discard => cases quiet
  | schedule task =>
    obtain rfl := Option.some.inj tells
    split <;> rfl
  | begin world =>
    obtain ⟨task, -, rfl⟩ := Option.map_eq_some_iff.mp tells
    rfl
  | notice index =>
    obtain ⟨entry, -, rfl⟩ := Option.map_eq_some_iff.mp tells
    rfl
  | advance timing =>
    obtain ⟨body, -, tells⟩ := Option.bind_eq_some_iff.mp tells
    split at tells
    · obtain rfl := Option.some.inj tells
      rfl
    · split at tells
      · obtain rfl := Option.some.inj tells
        rfl
      · cases tells
  | _ => cases tells

variable [DecidableEq ι]

theorem handoffs_put {handoff : Handoff ρ} {other : ι} :
    (now.put other handoff).handoffs task = if task = other then handoff else now.handoffs task :=
  rfl

/-- The handoffs of a domain whose drivers do nothing.  Those of tasks in the loop are untouched,
but for that of a task whose driver is released. -/
structure Untended (domain : HostDomain ι ρ) : Prop where
  untouched : ∀ task, task ∉ domain.offered ∨ task ∈ domain.loop.started ++ domain.loop.arrived →
    (∀ body, domain.body = some body → body.reached = 2 → task ≠ body.task) →
      domain.handoffs task = {}
  used : ∀ body, domain.body = some body → body.reached = 2 →
    ∃ slot, domain.handoffs body.task = { slot := slot, signal := .used }

theorem Untended.change (untended : Untended before) (kept : Kept tasks past before)
    (change : Change tasks before event after)
    (quiet : ∀ told, event = some told → told.isQuiet = true) (going : after.stage ≠ .givenUp) :
    Untended after := by
  obtain ⟨untouched, used⟩ := untended
  have inside : ∀ {body : Body ι ρ}, before.body = some body →
      body.task ∈ before.loop.started ++ before.loop.arrived := by
    intro body running
    have first := kept.orderly.first body running
    exact List.mem_append_left _ (List.mem_of_head? first)
  cases change with
  | door loop_eq => rcases loop_eq with rfl | rfl <;> exact ⟨untouched, used⟩
  | drained => exact ⟨untouched, used⟩
  | finished => exact ⟨untouched, used⟩
  | @accepted task fresh opened =>
    refine ⟨fun other there idle => untouched other ?_ idle, used⟩
    rcases there with unknown | there
    · exact .inl fun known => unknown (List.mem_cons_of_mem _ known)
    · change other ∈ before.loop.started ++ (before.loop.arrived ++ [task]) at there
      rw [← List.append_assoc] at there
      rcases List.mem_append.mp there with there | last
      · exact .inr there
      · rw [List.mem_singleton.mp last]
        exact .inl fresh
  | @refused task handoff fresh dropped =>
    constructor
    · intro other there idle
      have different : other ≠ task := by
        rintro rfl
        rcases there with unknown | there
        · exact unknown List.mem_cons_self
        · exact fresh (kept.mem_offered there)
      rw [handoffs_put, if_neg different]
      refine untouched other ?_ idle
      exact there.imp_left fun unknown known => unknown (List.mem_cons_of_mem _ known)
    · intro body running reached
      have different : body.task ≠ task := by
        rintro rfl
        exact fresh (kept.mem_offered (inside running))
      rw [handoffs_put, if_neg different]
      exact used body running reached
  | acted =>
    cases quiet _ rfl
  | @received task rest selecting arrived =>
    refine ⟨fun other there idle => untouched other ?_ idle, used⟩
    rw [arrived]
    simpa using there
  | begun idle running next =>
    constructor
    · intro other there _
      exact untouched other there fun body busy => by rw [idle] at busy; cases busy
    · intro body busy reached
      obtain rfl := Option.some.inj busy
      cases reached
  | @counted body metrics running early =>
    constructor
    · intro other there _
      refine untouched other there fun body' busy reached => ?_
      obtain rfl := Option.some.inj (running.symm.trans busy)
      rw [early] at reached
      cases reached
    · intro body' busy reached
      obtain rfl := Option.some.inj busy
      cases reached
  | @released body handoff running early completed =>
    have fresh : before.handoffs body.task = {} := by
      refine untouched body.task (.inr (inside running)) fun body' busy reached => ?_
      obtain rfl := Option.some.inj (running.symm.trans busy)
      rw [early] at reached
      cases reached
    constructor
    · intro other there idle
      have different : other ≠ body.task := idle { body with reached := 2 } rfl rfl
      rw [handoffs_put, if_neg different]
      refine untouched other there fun body' busy reached => ?_
      obtain rfl := Option.some.inj (running.symm.trans busy)
      exact different
    · intro body' busy reached
      obtain rfl := Option.some.inj busy
      rw [fresh] at completed
      obtain rfl := Option.some.inj completed
      exact ⟨_, if_pos rfl⟩
  | @ended body task rest handoff running reached started dropped =>
    obtain rfl : task = body.task := first_of_started (kept.orderly.first body running) started
    constructor
    · intro other there _
      have different : other ≠ body.task := by
        rintro rfl
        rcases there with unknown | there
        · exact unknown (kept.mem_offered (inside running))
        · have nodup := kept.nodup
          rw [started, List.cons_append, List.nodup_cons] at nodup
          exact nodup.1 there
      rw [handoffs_put, if_neg different]
      refine untouched other ?_ fun body' busy _ => ?_
      · rw [started]
        exact there.imp_right (List.mem_cons_of_mem _)
      · obtain rfl := Option.some.inj (running.symm.trans busy)
        exact different
    · intro body' busy
      cases busy
  | @noticed task fault index running here => cases fault <;> exact ⟨untouched, used⟩
  | givenUp => exact absurd rfl going
  | swept gone => exact absurd gone going
  | destroyed =>
    cases quiet _ rfl

/-- Whether a domain can be reached without its drivers. -/
def Quiet (tasks : ι → Callback π ω ρ) (domain : HostDomain ι ρ) : Prop :=
  ∃ past, Run (step tasks) ({} : HostDomain ι ρ) past domain ∧ Untended domain

theorem quiet_start : Quiet tasks ({} : HostDomain ι ρ) := by
  refine ⟨[], .start, fun _ _ _ => rfl, fun body running => ?_⟩
  cases running

theorem Quiet.step (quiet : Quiet tasks before) (made : before.step tasks move = some after)
    (isQuiet : move.isQuiet = true) (going : after.stage ≠ .givenUp) : Quiet tasks after := by
  obtain ⟨past, run, untended⟩ := quiet
  have change := step_change made
  have kept := kept_of_run run (change.kept going)
  refine ⟨_, run.next made, untended.change kept change (fun told tells => ?_) going⟩
  exact isQuiet_of_event isQuiet tells

variable {body : Body ι ρ}

/-- Nothing has happened to the handoff of a task that is new. -/
theorem Quiet.blank_of_fresh (quiet : Quiet tasks now) (going : now.stage ≠ .givenUp)
    (fresh : task ∉ now.offered) : now.handoffs task = {} := by
  obtain ⟨past, run, untended⟩ := quiet
  have kept := kept_of_run run going
  refine untended.untouched task (.inl fresh) fun body running _ => ?_
  rintro rfl
  have first := kept.orderly.first body running
  exact fresh (kept.mem_offered (List.mem_append_left _ (List.mem_of_head? first)))

/-- Nothing has happened to the handoff of a task whose driver is not released yet. -/
theorem Quiet.blank_of_running (quiet : Quiet tasks now) (going : now.stage ≠ .givenUp)
    (running : now.body = some body) (early : body.reached ≠ 2) : now.handoffs body.task = {} := by
  obtain ⟨past, run, untended⟩ := quiet
  have first := (kept_of_run run going).orderly.first body running
  have inside := List.mem_append_left now.loop.arrived (List.mem_of_head? first)
  refine untended.untouched body.task (.inr inside) fun other busy late => ?_
  obtain rfl := Option.some.inj (running.symm.trans busy)
  exact absurd late early

theorem Quiet.used_of_running (quiet : Quiet tasks now) (running : now.body = some body)
    (late : body.reached = 2) :
    ∃ slot, now.handoffs body.task = { slot := slot, signal := .used } := by
  obtain ⟨past, run, untended⟩ := quiet
  exact untended.used body running late

end CallbackFerry.HostDomain
