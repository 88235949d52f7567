import CallbackFerry.Proofs.Bridge.Ledger
import CallbackFerry.Proofs.Bridge.Results
import CallbackFerry.Proofs.Metrics.Latency

/-!
# How a callback is carried out

The host carries a callback out in four deeds: its function is applied, it is counted, its driver is
released, and the task comes to its end, where a fault of the function is raised again.
`Deed.course` lists them for either way in which a function can end.  The moves of everybody else
may come between them, yet their order and their number is always the same: by `passages_of_reached`
what was done to a callback is the beginning of its course.

`Deed.Does` says what each deed does to the bridge.  A callback that is counted is entered into the
window of recent latencies, which looks back over the last 256 callbacks and ten seconds
(`recent_of_reached`).  What comes out of a task at its end is the very fault that its function
broke off with (`letOut_eq_deeds`, `Passage.letOut`).

A callback is counted before its driver is released.  So there is no moment in which more drivers
know that their function returned than callbacks are counted as completed, and the same holds for
faults (`card_told_le`).
-/

namespace CallbackFerry.Bridge

variable {π ω ρ : Type}

/-! ### Deeds -/

/-- What the host does to a callback. -/
inductive Deed (ω ρ : Type) where
  /-- Its function is applied, in this world. -/
  | applied (world : ω)
  /-- It is counted. -/
  | counted (success : Bool) (timing : Timing)
  /-- Its driver is released. -/
  | released (completion : Completion ρ)
  /-- Its task comes to its end, and raises a fault again or none. -/
  | ended (fault : Option Fault)

namespace Deed

/-- All that is done to a callback whose function comes to this, in order. -/
def course (world : ω) (timing : Timing) : Except Fault ρ → List (Deed ω ρ)
  | .ok value => [.applied world, .counted true timing, .released (.value value), .ended none]
  | .error fault =>
    [.applied world, .counted false timing,
      .released (.fault (fault.words.getD "callback panicked with a non-string payload")),
      .ended (some fault)]

/-- The deed that reaching a milestone is. -/
def ofMilestone (timing : Timing) : Milestone ρ → Deed ω ρ
  | .counted success => .counted success timing
  | .released completion => .released completion
  | .ended fault => .ended fault

/-- What a deed enters into the counters, if it counts a callback. -/
def execution? : Deed ω ρ → Option Execution
  | .counted success timing => some ⟨timing.finished, timing.latency, success⟩
  | _ => none

/-- What comes out of a task by a deed that is its end. -/
def letOut? : Deed ω ρ → Option (Option Fault)
  | .ended fault => some fault
  | _ => none

end Deed

/-- What is done in a moment to the callback of a submission, if anything is. -/
def deed (key : Nat) (moment : Moment (Bridge π ω ρ) (Move π ω ρ)) : Option (Deed ω ρ) :=
  match moment.move with
  | .begin subject world => if subject = key then some (.applied world) else none
  | .advance subject timing =>
    if subject = key then
      ((moment.before.standing key).running.head?.bind List.head?).map (Deed.ofMilestone timing)
    else none
  | _ => none

/-- What was done to the callback of a submission so far, in order. -/
def deeds (key : Nat) (past : List (Moment (Bridge π ω ρ) (Move π ω ρ))) : List (Deed ω ρ) :=
  past.filterMap (deed key)

/-- What is entered into the counters in a moment, if a callback is counted. -/
def execution (moment : Moment (Bridge π ω ρ) (Move π ω ρ)) : Option Execution :=
  (moment.before.subject moment.move).bind fun key => (deed key moment).bind Deed.execution?

/-- The callbacks that were counted so far, in order. -/
def executions (past : List (Moment (Bridge π ω ρ) (Move π ω ρ))) : List Execution :=
  past.filterMap execution

/-- What came out of the task of a submission. -/
def letOut (key : Nat) (bridge : Bridge π ω ρ) : List (Option Fault) :=
  (bridge.surfaced.filter (·.1.key = key)).map (·.2)

/-- How far a callback can have come: what its function has come to, what was done to it, and what
is still ahead of its running task. -/
inductive Passage (callback : Callback π ω ρ) :
    List (Except Fault ρ) → List (Deed ω ρ) → List (List (Milestone ρ)) → Prop
  /-- Nothing was done. -/
  | idle : Passage callback [] [] []
  /-- Its function was applied, and some of the three further deeds were done. -/
  | underway (world : ω) (timing : Timing) (further : Nat) (within : further ≤ 3) :
      Passage callback [(callback.invoke world).outcome]
        ((Deed.course world timing (callback.invoke world).outcome).take (further + 1))
        (remaining ((milestones (callback.invoke world).outcome).drop further))

/-- How far the callback of a submission has come, if there is one. -/
def Passages (done : List (Deed ω ρ)) (st : Standing π ω ρ) : Prop :=
  match st.submission with
  | none => done = [] ∧ st.running = []
  | some s => Passage s.callback s.outcomes done st.running

variable {bridge after : Bridge π ω ρ} {key : Nat} {st st' : Standing π ω ρ}
  {move : Move π ω ρ} {done : List (Deed ω ρ)} {timing : Timing}

/-! ### One move -/

theorem deed_eq_none (applies : ∀ world, move ≠ .begin key world)
    (advances : ∀ timing, move ≠ .advance key timing) :
    deed key (⟨bridge, move⟩ : Moment (Bridge π ω ρ) (Move π ω ρ)) = none := by
  cases move with
  | begin subject world =>
    refine if_neg fun same => applies world ?_
    rw [same]
  | advance subject timing =>
    refine if_neg fun same => advances timing ?_
    rw [same]
  | _ => rfl

/-- Nothing is done to a callback by a move that is about another one. -/
theorem deed_of_aside (other : bridge.subject move ≠ some key) :
    deed key (⟨bridge, move⟩ : Moment (Bridge π ω ρ) (Move π ω ρ)) = none := by
  apply deed_eq_none
  · rintro world rfl
    exact other rfl
  · rintro timing rfl
    exact other rfl

/-- A callback whose task advances reaches the milestone that is ahead of it. -/
theorem deed_advance {milestone : Milestone ρ} {rest : List (Milestone ρ)}
    {others : List (List (Milestone ρ))}
    (ahead : (bridge.standing key).running = (milestone :: rest) :: others) :
    deed key (⟨bridge, .advance key timing⟩ : Moment (Bridge π ω ρ) (Move π ω ρ)) =
      some (Deed.ofMilestone timing milestone) := by
  simp [deed, ahead]

theorem Passage.applied (callback : Callback π ω ρ) (world : ω) :
    Passage callback [(callback.invoke world).outcome] [.applied world]
      [milestones (callback.invoke world).outcome] := by
  have begun : ∀ timing : Timing,
      (Deed.course world timing (callback.invoke world).outcome).take 1 = [.applied world] := by
    intro timing
    cases (callback.invoke world).outcome <;> rfl
  exact begun ⟨⟨0⟩, ⟨0⟩⟩ ▸ .underway world _ 0 (by decide)

/-- What was done before a callback is counted does not depend on when it will be. -/
theorem Deed.take_one_course (world : ω) (timing timing' : Timing) (outcome : Except Fault ρ) :
    (course world timing outcome).take 1 = (course world timing' outcome).take 1 := by
  cases outcome <;> rfl

/-- The three milestones of a callback are the deeds of its course that follow the first. -/
theorem Deed.take_course (world : ω) (timing : Timing) (outcome : Except Fault ρ) :
    (course world timing outcome).take 2 = (course world timing outcome).take 1 ++
        [ofMilestone timing (.counted (succeeded outcome))] ∧
      (course world timing outcome).take 3 = (course world timing outcome).take 2 ++
        [ofMilestone timing (.released (.ofOutcome outcome))] ∧
      (course world timing outcome).take 4 = (course world timing outcome).take 3 ++
        [ofMilestone timing (.ended (faultOf outcome))] := by
  cases outcome <;> exact ⟨rfl, rfl, rfl⟩

/-- A callback that has reached a milestone has come one deed further. -/
theorem Passage.advance {callback : Callback π ω ρ} {outcomes : List (Except Fault ρ)}
    {milestone : Milestone ρ} {rest : List (Milestone ρ)}
    {running others : List (List (Milestone ρ))}
    (passage : Passage callback outcomes done running)
    (ahead : running = (milestone :: rest) :: others) :
    Passage callback outcomes (done ++ [Deed.ofMilestone timing milestone]) (remaining rest) := by
  cases passage with
  | idle => cases ahead
  | underway world counted further within =>
    obtain ⟨-, releases, ends⟩ :=
      Deed.take_course world counted (callback.invoke world).outcome
    match further with
    | 0 =>
      cases ahead
      have counts := (Deed.take_course world timing (callback.invoke world).outcome).1
      rw [Deed.take_one_course world counted timing]
      exact counts ▸ .underway world timing 1 (by decide)
    | 1 =>
      cases ahead
      exact releases ▸ .underway world counted 2 (by decide)
    | 2 =>
      cases ahead
      exact ends ▸ .underway world counted 3 (by decide)
    | 3 => cases ahead

/-- A running task has a milestone ahead. -/
theorem Passage.ahead_ne_nil {callback : Callback π ω ρ} {outcomes : List (Except Fault ρ)}
    {ahead : List (Milestone ρ)} {running others : List (List (Milestone ρ))}
    (passage : Passage callback outcomes done running) (runs : running = ahead :: others) :
    ahead ≠ [] := by
  cases passage with
  | idle => cases runs
  | underway world timing further within =>
    rintro rfl
    unfold remaining at runs
    split at runs
    · cases runs
    · next some =>
      obtain ⟨none, -⟩ := List.cons.inj runs
      exact some (List.isEmpty_iff.mpr none)

/-- A task that runs is that of a submission. -/
theorem Passages.exists_submission {ahead : List (Milestone ρ)}
    {others : List (List (Milestone ρ))} (passages : Passages done st)
    (runs : st.running = ahead :: others) :
    ∃ s, st.submission = some s ∧ Passage s.callback s.outcomes done st.running := by
  unfold Passages at passages
  cases record : st.submission with
  | none =>
    rw [record] at passages
    rw [passages.2] at runs
    cases runs
  | some s =>
    rw [record] at passages
    exact ⟨s, rfl, passages⟩

/-- A change of a standing takes a callback one stage further, or leaves it where it is. -/
theorem Change.passages (change : Change bridge key (bridge.standing key) move st')
    (sound : Sound bridge.timeout (bridge.standing key))
    (passages : Passages done (bridge.standing key)) :
    Passages
      (done ++ (deed key (⟨bridge, move⟩ : Moment (Bridge π ω ρ) (Move π ω ρ))).toList) st' := by
  generalize standing : bridge.standing key = st at change sound passages
  cases change with
  | aside other =>
    rw [deed_of_aside other, Option.toList_none, List.append_nil]
    exact passages
  | drawn fresh absent =>
    rw [Passages, absent] at passages
    obtain ⟨rfl, idle⟩ := passages
    show Passage _ [] _ st.running
    rw [idle]
    exact .idle
  | queued record | refused record | collected record | expired record | left record =>
    rw [Passages, record] at passages
    simpa [deed, Passages] using passages
  | taken | kept => simpa [deed, Passages] using passages
  | lost | dropped =>
    unfold Passages at passages ⊢
    cases record : st.submission <;> simpa [deed, record] using passages
  | @begun world s record holds =>
    -- A task that the host holds is not running, and nothing was done to it.
    obtain ⟨s, queued, inHand, held, rfl, -, -, outcomes, -⟩ := sound.of_unit (by omega)
    obtain rfl := Option.some.inj record
    have passage : Passage s.callback s.outcomes done [] := passages
    rw [outcomes] at passage
    cases passage with
    | idle =>
      simp only [deed, Passages, outcomes]
      exact .applied s.callback world
  | counted ahead | ended ahead =>
    obtain ⟨s, record, passage⟩ := passages.exists_submission ahead
    rw [deed_advance (standing ▸ ahead), Option.toList_some, Passages, record]
    exact passage.advance ahead
  | released ahead =>
    obtain ⟨s, record, passage⟩ := passages.exists_submission ahead
    rw [deed_advance (standing ▸ ahead), Option.toList_some, Passages, record]
    exact passage.advance ahead
  | finished ahead =>
    obtain ⟨s, record, passage⟩ := passages.exists_submission ahead
    exact absurd rfl (passage.ahead_ne_nil ahead)

/-- A task that runs can always go on. -/
theorem exists_advance {ahead : List (Milestone ρ)} {others : List (List (Milestone ρ))}
    (runs : (bridge.standing key).running = ahead :: others) (timing : Timing) :
    ∃ after, bridge.step (.advance key timing) = some after := by
  have found : bridge.running.find? (·.ticket.key = key) ≠ none := by
    intro none
    have empty : bridge.running.filter (·.ticket.key = key) = [] := by
      simpa using none
    simp [standing, empty] at runs
  obtain ⟨task, found⟩ := Option.ne_none_iff_exists'.mp found
  cases next : task.ahead with
  | nil => exact ⟨_, by rw [step, advance, found]; dsimp only; rw [next]⟩
  | cons milestone rest => exact ⟨_, by rw [step, advance, found]; dsimp only; rw [next]⟩

/-- A task that the host holds can begin in any world. -/
theorem exists_begin (sound : Sound bridge.timeout (bridge.standing key))
    (holds : 0 < (bridge.standing key).held) (world : ω) :
    ∃ after, bridge.step (.begin key world) = some after := by
  have found : bridge.held.find? (·.key = key) ≠ none := by
    intro none
    have absent : (bridge.standing key).held = 0 := by
      simpa [standing, List.countP_eq_zero] using none
    omega
  obtain ⟨ticket, found⟩ := Option.ne_none_iff_exists'.mp found
  obtain ⟨s, queued, inHand, held, st, -⟩ := sound.of_unit (by omega)
  have record : bridge.submissions[key]? = some s := congrArg Standing.submission st
  exact ⟨_, by simp only [step, begin, release, found, record]; rfl⟩

/-! ### What a deed does -/

/-- What a deed changes in a bridge: in the submissions, the counters, and what comes out of tasks. -/
def Deed.Does (key : Nat) (before after : Bridge π ω ρ) : Deed ω ρ → Prop
  | .applied world =>
    ∃ s, before.submissions[key]? = some s ∧
      let work := s.callback.function s.callback.payload world
      after.submissions = before.submissions.modify key (fun submission =>
          { submission with outcomes := work.outcome :: submission.outcomes }) ∧
        after.metrics =
          { before.metrics with
            routingErrors := before.metrics.routingErrors + work.misrouted } ∧
        after.surfaced = before.surfaced
  | .counted success timing =>
    -- The window keeps 256 callbacks, this one included, and looks back ten seconds.
    let noted := before.metrics.latencies.recent ++ [⟨timing.finished, timing.latency.micros⟩]
    after.submissions = before.submissions ∧
      after.metrics =
        { before.metrics with
          completed := before.metrics.completed + if success then 1 else 0
          faulted := before.metrics.faulted + if success then 0 else 1
          latencies := ⟨(noted.drop (noted.length - 256)).dropWhile fun entry =>
            decide (entry.finished.nanos + 10000000000 < timing.finished.nanos)⟩ } ∧
      after.surfaced = before.surfaced
  | .released completion =>
    after.submissions = before.submissions.modify key (fun submission =>
        { submission with slot := some completion }) ∧
      after.metrics = before.metrics ∧ after.surfaced = before.surfaced
  | .ended fault =>
    after.submissions = before.submissions ∧ after.metrics = before.metrics ∧
      ∃ ticket : Ticket, ticket.key = key ∧
        after.surfaced = (ticket, fault) :: before.surfaced ∧
        after.journal = before.journal.append (Callback.endLines ticket.id fault)

/-- Counting a callback adds one to one counter, and its latency to the window. -/
theorem recordExecutedAt_eq (metrics : Metrics) (timing : Timing) (success : Bool)
    (room : metrics.latencies.recent.length ≤ Window.capacity) :
    let noted := metrics.latencies.recent ++ [⟨timing.finished, timing.latency.micros⟩]
    metrics.recordExecutedAt timing.finished timing.latency success =
      { metrics with
        completed := metrics.completed + if success then 1 else 0
        faulted := metrics.faulted + if success then 0 else 1
        latencies := ⟨(noted.drop (noted.length - 256)).dropWhile fun entry =>
          decide (entry.finished.nanos + 10000000000 < timing.finished.nanos)⟩ } := by
  intro noted
  have window : metrics.latencies.recordAt timing.finished timing.latency =
      ⟨(noted.drop (noted.length - 256)).dropWhile fun entry =>
        decide (entry.finished.nanos + 10000000000 < timing.finished.nanos)⟩ :=
    congrArg Window.mk (Window.recent_recordAt room timing.finished timing.latency)
  unfold Metrics.recordExecutedAt
  cases success with
  | true => exact congrArg (fun window => { metrics with
      completed := metrics.completed + 1, latencies := window }) window
  | false => exact congrArg (fun window => { metrics with
      faulted := metrics.faulted + 1, latencies := window }) window

/-- A deed does what it is there for. -/
theorem does_of_deed {what : Deed ω ρ} (made : bridge.step move = some after)
    (room : bridge.metrics.latencies.recent.length ≤ Window.capacity)
    (h : deed key (⟨bridge, move⟩ : Moment (Bridge π ω ρ) (Move π ω ρ)) = some what) :
    what.Does key bridge after := by
  cases move with
  | begin subject world =>
    obtain ⟨same, applied⟩ := Option.ite_none_right_eq_some.mp h
    obtain rfl := Option.some.inj applied
    obtain rfl := same
    obtain ⟨ticket, s, lines, -, -, record, rfl⟩ := begin_eq_some made
    exact ⟨s, record, rfl, rfl, rfl⟩
  | advance subject timing =>
    obtain ⟨same, reached⟩ := Option.ite_none_right_eq_some.mp h
    obtain rfl := same
    obtain ⟨⟨ticket, ahead⟩, found, cases⟩ := advance_eq_some made
    obtain ⟨same, others, running⟩ := running_of_find? found
    obtain rfl := same
    rw [running] at reached
    obtain ⟨rfl, -⟩ | ⟨milestone, rest, rfl, rfl⟩ := cases
    · simp at reached
    · obtain rfl := Option.some.inj reached
      cases milestone with
      | counted success => exact ⟨rfl, recordExecutedAt_eq bridge.metrics timing success room, rfl⟩
      | released completion => exact ⟨rfl, rfl, rfl⟩
      | ended fault => exact ⟨rfl, rfl, ticket, rfl, rfl, rfl⟩
  | _ => simp [deed] at h

/-! ### What comes out of tasks -/

/-- Something comes out of a task by the deed that is its end, and at no other time. -/
theorem step_letOut (made : bridge.step move = some after) (key : Nat) :
    after.letOut key =
      ((deed key (⟨bridge, move⟩ : Moment (Bridge π ω ρ) (Move π ω ρ))).bind
        Deed.letOut?).toList ++ bridge.letOut key := by
  cases move with
  | advance subject timing =>
    obtain ⟨⟨ticket, ahead⟩, found, cases⟩ := advance_eq_some made
    obtain ⟨same, others, running⟩ := running_of_find? found
    obtain rfl := same
    by_cases same : ticket.key = key
    · subst same
      obtain ⟨rfl, rfl⟩ | ⟨milestone, rest, rfl, rfl⟩ := cases
      · simp [deed, running, letOut]
      · rw [deed_advance running]
        cases milestone with
        | counted | released => rfl
        | ended fault => simp [reach, surface, letOut, Deed.ofMilestone, Deed.letOut?]
    · have silent : deed key (⟨bridge, .advance ticket.key timing⟩ :
          Moment (Bridge π ω ρ) (Move π ω ρ)) = none := if_neg same
      rw [silent]
      obtain ⟨rfl, rfl⟩ | ⟨milestone, rest, rfl, rfl⟩ := cases
      · rfl
      · cases milestone with
        | counted | released => rfl
        | ended fault => simp [reach, surface, letOut, same]
  | begin subject world =>
    rw [letOut, surfaced_of_step made (by simp), deed]
    dsimp only
    split <;> rfl
  | _ =>
    rw [letOut, surfaced_of_step made (by simp)]
    rfl

variable {settings : BridgeSettings} {past : List (Moment (Bridge π ω ρ) (Move π ω ρ))}
  {now : Bridge π ω ρ}

/-- What came out of a task is what was let out of it by deeds, newest first. -/
theorem letOut_eq_deeds (reached : Reached settings past now) (key : Nat) :
    now.letOut key = ((deeds key past).filterMap Deed.letOut?).reverse := by
  obtain ⟨first, started, run⟩ := reached
  induction run with
  | start =>
    obtain ⟨-, -, rfl⟩ := start_eq_ok_iff.mp started
    rfl
  | @next past now after move run made ih =>
    have done :
        deeds key (past ++ [⟨now, move⟩]) = deeds key past ++ (deed key ⟨now, move⟩).toList :=
      Run.filterMap_concat ..
    rw [step_letOut made key, ih, done, List.filterMap_append, List.reverse_append]
    congr 1
    cases deed key (⟨now, move⟩ : Moment (Bridge π ω ρ) (Move π ω ρ)) with
    | none => rfl
    | some what => cases what <;> rfl

/-! ### Counters -/

/-- What the counters say about the callbacks that ran. -/
def tallies (metrics : Metrics) : Nat × Nat × Window :=
  (metrics.completed, metrics.faulted, metrics.latencies)

/-- A driver that leaves counts no callback that ran. -/
theorem tallies_parting (number : Nat) (result : Except Failure ρ) (metrics : Metrics) :
    tallies ((parting number result).1 metrics) = tallies metrics := by
  cases result with
  | ok value => rfl
  | error failure => cases failure <;> rfl

/-- What the counters say after a callback was counted depends on what they said before. -/
theorem tallies_recordExecutedAt {metrics metrics' : Metrics}
    (same : tallies metrics = tallies metrics') (finished latency : Span) (success : Bool) :
    tallies (metrics.recordExecutedAt finished latency success) =
      tallies (metrics'.recordExecutedAt finished latency success) := by
  simp only [tallies, Prod.mk.injEq] at same ⊢
  obtain ⟨completed, faulted, latencies⟩ := same
  cases success <;> simp [Metrics.recordExecutedAt, completed, faulted, latencies]

/-- The counters of callbacks that ran change when a callback is counted, and at no other time. -/
theorem step_tallies (made : bridge.step move = some after) :
    tallies after.metrics =
      match execution (⟨bridge, move⟩ : Moment (Bridge π ω ρ) (Move π ω ρ)) with
      | some counted => tallies (bridge.metrics.recordExecutedAt counted.finished counted.latency
          counted.success)
      | none => tallies bridge.metrics := by
  rw [step_metrics made]
  cases move with
  | leave key =>
    obtain ⟨s, result, record, leaving, -⟩ := leave_eq_some made
    simp only [charge, record, leaving]
    exact tallies_parting s.id result bridge.metrics
  | begin key world =>
    obtain ⟨ticket, s, lines, -, -, record, -⟩ := begin_eq_some made
    have silent :
        execution (⟨bridge, .begin key world⟩ : Moment (Bridge π ω ρ) (Move π ω ρ)) = none := by
      simp [execution, subject, deed, Deed.execution?]
    simp only [charge, record, silent]
    rfl
  | advance key timing =>
    obtain ⟨⟨ticket, ahead⟩, found, -⟩ := advance_eq_some made
    obtain ⟨-, others, running⟩ := running_of_find? found
    simp only [charge, found, execution, subject, deed, running, Option.bind_some, if_true,
      List.head?_cons]
    cases ahead with
    | nil => rfl
    | cons milestone rest => cases milestone <;> rfl
  | take | offer =>
    unfold execution
    cases bridge.subject _ <;> rfl
  | _ => rfl

/-- The counters of callbacks that ran are what the callbacks that were counted make of them. -/
theorem tallies_of_reached (reached : Reached settings past now) :
    tallies now.metrics = tallies (Metrics.run (executions past)) := by
  obtain ⟨first, started, run⟩ := reached
  induction run with
  | start =>
    obtain ⟨-, -, rfl⟩ := start_eq_ok_iff.mp started
    rfl
  | @next past now after move run made ih =>
    rw [step_tallies made, executions, Run.filterMap_concat]
    cases execution (⟨now, move⟩ : Moment (Bridge π ω ρ) (Move π ω ρ)) with
    | none =>
      rw [Option.toList_none, List.append_nil]
      exact ih
    | some counted =>
      rw [Option.toList_some, run_concat]
      exact tallies_recordExecutedAt ih _ _ _

/-- Every callback that was counted is in one of the two counters. -/
theorem counts_of_reached (reached : Reached settings past now) :
    now.metrics.completed = (executions past).countP (·.success) ∧
      now.metrics.faulted = (executions past).countP (! ·.success) := by
  have same := tallies_of_reached reached
  simp only [tallies, Prod.mk.injEq] at same
  rw [same.1, same.2.1]
  exact counts_run (executions past)

theorem window_of_reached (reached : Reached settings past now) :
    now.metrics.latencies = (Metrics.run (executions past)).latencies := by
  have same := tallies_of_reached reached
  simp only [tallies, Prod.mk.injEq] at same
  exact same.2.2

/-! ### What drivers know -/

/-- Whether a result says that the function returned, or that it broke off. -/
def verdict : Except Failure ρ → Option Bool
  | .ok _ => some true
  | .error (.fault _) => some false
  | _ => none

/-- The submissions whose drivers know that the function returned, or that it broke off. -/
def told (success : Bool) (bridge : Bridge π ω ρ) : Finset Nat :=
  (Finset.range bridge.submissions.size).filter fun key =>
    (bridge.submissions[key]?.bind fun s => s.caller.result?.bind verdict) = some success

theorem exists_completion_of_verdict {result : Except Failure ρ} {success : Bool}
    (h : verdict result = some success) :
    ∃ completion : Completion ρ, result = completion.result ∧
      ∀ outcome, completion = .ofOutcome outcome → succeeded outcome = success := by
  cases result with
  | ok value =>
    obtain rfl := Option.some.inj h
    refine ⟨.value value, rfl, fun outcome ends => ?_⟩
    rw [Completion.ofOutcome_eq_value_iff.mp ends.symm]
    rfl
  | error failure =>
    cases failure with
    | fault text =>
      obtain rfl := Option.some.inj h
      refine ⟨.fault text, rfl, fun outcome ends => ?_⟩
      obtain ⟨cause, rfl, -⟩ := Completion.ofOutcome_eq_fault_iff.mp ends.symm
      rfl
    | _ => cases h

/-- A callback whose driver knows how it ended is counted so. -/
theorem told_subset_roll (reached : Reached settings past now) (success : Bool) :
    now.told success ⊆ now.roll (Account.ofSuccess success) := by
  intro key member
  obtain ⟨s, record, known⟩ := Option.bind_eq_some_iff.mp (Finset.mem_filter.mp member).2
  obtain ⟨result, told, h⟩ := Option.bind_eq_some_iff.mp known
  obtain ⟨completion, rfl, ends⟩ := exists_completion_of_verdict h
  have ending := (sound_of_reached reached key).ending record (.inr told)
  have ran : (now.standing key).ran? = some (Account.ofSuccess success) := by
    have record : (now.standing key).submission = some s := record
    generalize now.standing key = st at ending record
    obtain ⟨submission, queued, inHand, held, running⟩ := st
    obtain rfl := record
    dsimp only at ending
    generalize outcomes : s.outcomes = noted at ending
    cases ending with
    | lost => cases h
    | ran outcome | gone outcome =>
      simp [Standing.ran?, Standing.uncounted, outcomes, ends outcome rfl]
  exact mem_roll.mpr (mem_accounts.mpr (.inr (.inl ran)))

/-- No more drivers know that their function returned, or that it broke off, than callbacks are
counted so. -/
theorem card_told_le (reached : Reached settings past now) (success : Bool) :
    (now.told success).card ≤ now.metrics.balance (Account.ofSuccess success) := by
  rw [balance_eq_card reached]
  exact Finset.card_le_card (told_subset_roll reached success)

/-! ### The whole -/

/-- How callbacks were carried out until now, and what that did. -/
structure CarriedOut (past : List (Moment (Bridge π ω ρ) (Move π ω ρ))) (now : Bridge π ω ρ) :
    Prop where
  /-- Every callback is somewhere on its passage: its function is applied once, to its own payload,
  and then it is counted, its driver released, and its task ended, in this order and each once. -/
  passage : ∀ key s, now.submissions[key]? = some s →
    Passage s.callback s.outcomes (deeds key past) (now.standing key).running
  /-- A task that the host holds can begin, in any world. -/
  begins : ∀ key, 0 < (now.standing key).held → ∀ world,
    ∃ after, now.step (.begin key world) = some after
  /-- A task that runs can go on, whatever the others do, until it has ended. -/
  goes : ∀ key ahead others, (now.standing key).running = ahead :: others → ∀ timing,
    ∃ after, now.step (.advance key timing) = some after
  /-- Each deed did what it is there for, and nothing else to submissions, counters, and what comes
  out of tasks. -/
  does : ∀ moment ∈ past, ∀ key what, deed key moment = some what →
    ∃ after, step moment.before moment.move = some after ∧ what.Does key moment.before after
  /-- What comes out of a task at its end is nothing if its function returned, and else the very
  fault that it broke off with.  Before that nothing comes out. -/
  raises : ∀ key s, now.submissions[key]? = some s →
    now.letOut key =
      if (now.standing key).running.isEmpty then
        s.outcomes.map fun outcome =>
          match outcome with
          | .ok _ => none
          | .error fault => some fault
      else []
  /-- The counter of callbacks that returned is the number of those counted so. -/
  completed : now.metrics.completed = (executions past).countP (·.success)
  /-- The counter of callbacks that broke off is the number of those counted so. -/
  faulted : now.metrics.faulted = (executions past).countP (! ·.success)
  /-- One latency was recorded for each callback that was counted.  The window has those of the last
  256, without the callbacks that finished more than ten seconds before the last one. -/
  latencies : (executions past).Pairwise (·.finished.nanos ≤ ·.finished.nanos) →
    now.metrics.latencies.recent =
      (((executions past).map Execution.entry).drop ((executions past).length - 256)).filter
        fun entry => decide ((lastFinished (executions past)).nanos ≤
          entry.finished.nanos + 10000000000)
  /-- No more drivers know that their function returned than callbacks are counted as completed. -/
  values : (now.told true).card ≤ now.metrics.completed
  /-- No more drivers know of a fault than callbacks are counted as faulted. -/
  faults : (now.told false).card ≤ now.metrics.faulted

theorem passages_of_reached (reached : Reached settings past now) (key : Nat) :
    Passages (deeds key past) (now.standing key) := by
  obtain ⟨first, started, run⟩ := reached
  induction run with
  | start =>
    obtain ⟨-, -, rfl⟩ := start_eq_ok_iff.mp started
    exact ⟨rfl, rfl⟩
  | @next past now after move run made ih =>
    have upTo : Reached settings past now := ⟨first, started, run⟩
    rw [deeds, Run.filterMap_concat]
    exact (step_change made).passages (timeout_of_reached upTo ▸ sound_of_reached upTo key) ih

/-- The callback of a submission is somewhere on its passage. -/
theorem passage_of_reached {key : Nat} {s : Submission π ω ρ} (reached : Reached settings past now)
    (record : now.submissions[key]? = some s) :
    Passage s.callback s.outcomes (deeds key past) (now.standing key).running := by
  have passages := passages_of_reached reached key
  rwa [Passages, show (now.standing key).submission = some s from record] at passages

/-- What is let out of a task on its passage is the fault of its function, when it is through. -/
theorem Passage.letOut {callback : Callback π ω ρ} {outcomes : List (Except Fault ρ)}
    {running : List (List (Milestone ρ))} (passage : Passage callback outcomes done running) :
    (done.filterMap Deed.letOut?).reverse =
      if running.isEmpty then
        outcomes.map fun outcome =>
          match outcome with
          | .ok _ => none
          | .error fault => some fault
      else [] := by
  cases passage with
  | idle => rfl
  | underway world timing further within =>
    cases (callback.invoke world).outcome <;> match further with
    | 0 | 1 | 2 | 3 => rfl

/-- The window looks back from the last callback that was counted. -/
theorem recent_of_reached (reached : Reached settings past now)
    (ordered : (executions past).Pairwise (·.finished.nanos ≤ ·.finished.nanos)) :
    now.metrics.latencies.recent =
      (((executions past).map Execution.entry).drop ((executions past).length - 256)).filter
        fun entry => decide ((lastFinished (executions past)).nanos ≤
          entry.finished.nanos + 10000000000) := by
  have sorted : ((executions past).map Execution.entry).Pairwise
      (·.finished.nanos ≤ ·.finished.nanos) := List.pairwise_map.mpr ordered
  have young : ∀ entry : Window.Entry, (! entry.isStale (lastFinished (executions past))) =
      decide ((lastFinished (executions past)).nanos ≤ entry.finished.nanos + 10000000000) := by
    intro entry
    unfold Window.Entry.isStale Window.maxAge
    rw [Bool.eq_iff_iff, Bool.not_eq_true', decide_eq_false_iff_not, Nat.not_lt, decide_eq_true_eq]
  rw [window_of_reached reached, latencies_run ordered, Window.lookBack, Window.latest,
    Window.dropWhile_isStale (sorted.sublist (List.drop_sublist _ _))]
  simp only [young, Window.capacity, List.length_map]

/-- A reachable bridge carries its callbacks out in this way. -/
theorem carriedOut_of_reached (reached : Reached settings past now) : CarriedOut past now := by
  obtain ⟨completed, faulted⟩ := counts_of_reached reached
  refine ⟨fun key s record => passage_of_reached reached record, fun key holds world => ?_,
    fun key ahead others runs timing => ?_, fun moment member key what done => ?_,
    fun key s record => ?_, completed, faulted, recent_of_reached reached,
    card_told_le reached true, card_told_le reached false⟩
  · exact exists_begin (timeout_of_reached reached ▸ sound_of_reached reached key) holds world
  · exact exists_advance runs timing
  · obtain ⟨earlier, rest, after, -, upTo, made, -⟩ := reached.of_mem member
    have room : moment.before.metrics.latencies.recent.length ≤ Window.capacity := by
      rw [window_of_reached upTo]
      exact length_recent_run (executions earlier)
    exact ⟨after, made, does_of_deed made room done⟩
  · rw [letOut_eq_deeds reached key]
    exact (passage_of_reached reached record).letOut

/-- Two callbacks side by side in the host.  The first one breaks off, its driver knows and its
fault comes out of its task, before the second one, which returns, has been counted. -/
theorem carriedOut_of_two_callbacks : ∃ past, ∃ now : Bridge Nat Unit Nat, Reached {} past now ∧
    now.told false = {0} ∧ now.metrics.faulted = 1 ∧ now.told true = ∅ ∧ now.metrics.completed = 0 ∧
      now.letOut 0 = [some (.wordless 7)] ∧ CarriedOut past now := by
  have usable : BridgeSettings.flaw? {} = none := by decide
  have reached := reached_of_moves usable (by decide)
    [.draw (⟨20, fun _ world => ⟨.error (.wordless 7), world, 0⟩⟩ : Callback Nat Unit Nat), .push 0,
      .draw ⟨30, fun payload world => ⟨.ok (payload + 1), world, 0⟩⟩, .push 1,
      .take, .offer .accepted true, .settle, .take, .offer .accepted true, .settle,
      .begin 0 (), .begin 1 (), .advance 0 ⟨⟨9⟩, ⟨5⟩⟩, .advance 0 ⟨⟨9⟩, ⟨5⟩⟩, .collect 0,
      .advance 0 ⟨⟨9⟩, ⟨5⟩⟩]
  exact ⟨_, _, reached, rfl, rfl, rfl, rfl, rfl, carriedOut_of_reached reached⟩

end CallbackFerry.Bridge
