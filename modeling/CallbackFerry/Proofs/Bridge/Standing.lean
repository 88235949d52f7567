import CallbackFerry.Proofs.Bridge.Moves

/-!
# How one submission stands

A bridge serves many submissions at once, yet a move is about one of them at most, its `subject`.
The `Standing` of a submission is all that a bridge knows about it: its record, how often its
ticket is in the queue, in the dispatcher's hand and among the tasks that the host holds, and what
is still ahead of its running tasks.

`Change` lists what a move can do to one standing, with the conditions under which it is possible.
`step_change` says that the list is complete: whatever the move, every standing stays or changes
in one of these ways.  Everything that is later said about a submission follows from this list.
-/

namespace CallbackFerry

/-- How one submission stands. -/
structure Standing (π ω ρ : Type) where
  /-- Its record, if the call has been made. -/
  submission : Option (Submission π ω ρ)
  /-- How often its ticket is queued. -/
  queued : Nat
  /-- How often its ticket is in the dispatcher's hand. -/
  inHand : Nat
  /-- How often its ticket is among the tasks that the host holds. -/
  held : Nat
  /-- What is still ahead of its running tasks. -/
  running : List (List (Milestone ρ))

namespace Bridge

variable {π ω ρ : Type}

/-- How a submission stands in a bridge. -/
def standing (key : Nat) (bridge : Bridge π ω ρ) : Standing π ω ρ where
  submission := bridge.submissions[key]?
  queued := bridge.dispatcher.queue.pending.countP (·.key = key)
  inHand := bridge.dispatcher.hand.countP (·.key = key)
  held := bridge.held.countP (·.key = key)
  running := (bridge.running.filter (·.ticket.key = key)).map (·.ahead)

/-- The submission that a move is about. -/
def subject (bridge : Bridge π ω ρ) : Move π ω ρ → Option Nat
  | .draw _ => some bridge.submissions.size
  | .push key | .collect key | .expire key | .leave key => some key
  | .begin key _ | .advance key _ | .drop key => some key
  | .take => bridge.dispatcher.queue.pending.head?.map (·.key)
  | .offer _ _ => bridge.dispatcher.hand.head?.map (·.key)
  | .abort | .settle | .retire => none

/-- What is left of a running task that has reached a milestone: nothing after the last one. -/
def remaining (rest : List (Milestone ρ)) : List (List (Milestone ρ)) :=
  if rest.isEmpty then [] else [rest]

/-- What a move can do to the standing of one submission. -/
inductive Change (bridge : Bridge π ω ρ) (key : Nat) (st : Standing π ω ρ) :
    Move π ω ρ → Standing π ω ρ → Prop
  /-- The move is about another submission, or about none. -/
  | aside {move : Move π ω ρ} (other : bridge.subject move ≠ some key) :
      Change bridge key st move st
  /-- The call is made. -/
  | drawn {callback : Callback π ω ρ} (fresh : bridge.submissions.size = key)
      (absent : st.submission = none) :
      Change bridge key st (.draw callback)
        { st with submission := some { id := key + 1, callback := callback } }
  /-- The unit is queued. -/
  | queued {s : Submission π ω ρ} (record : st.submission = some s) (drawn : s.caller = .drawn)
      (opened : bridge.dispatcher.queue.closed = false) :
      Change bridge key st (.push key)
        { st with submission := some { s with caller := .waiting }, queued := st.queued + 1 }
  /-- The queue hands the unit back, and it is lost. -/
  | refused {s : Submission π ω ρ} (record : st.submission = some s) (drawn : s.caller = .drawn)
      (closed : bridge.dispatcher.queue.closed = true) :
      Change bridge key st (.push key)
        { st with
          submission :=
            some { s with slot := some .abandoned, caller := .leaving (.error .shutDown) } }
  /-- The driver takes what is in its slot. -/
  | collected {s : Submission π ω ρ} {completion : Completion ρ} (record : st.submission = some s)
      (waiting : s.caller = .waiting) (filled : s.slot = some completion) :
      Change bridge key st (.collect key)
        { st with submission := some { s with slot := none, caller := .leaving completion.result } }
  /-- The driver's limit passes while its slot is empty. -/
  | expired {s : Submission π ω ρ} {limit : Span} (record : st.submission = some s)
      (waiting : s.caller = .waiting) (empty : s.slot = none)
      (limited : bridge.timeout = some limit) :
      Change bridge key st (.expire key)
        { st with submission := some { s with caller := .leaving (.error (.timeout limit)) } }
  /-- The driver's call is over. -/
  | left {s : Submission π ω ρ} {result : Except Failure ρ} (record : st.submission = some s)
      (leaving : s.caller = .leaving result) :
      Change bridge key st (.leave key)
        { st with submission := some { s with caller := .returned result } }
  /-- The dispatcher takes the unit. -/
  | taken (waiting : 0 < st.queued) (free : st.inHand = 0) :
      Change bridge key st .take { st with queued := st.queued - 1, inHand := 1 }
  /-- The host keeps the task that it is offered. -/
  | kept {reception : Reception} (offered : st.inHand = 1) :
      Change bridge key st (.offer reception true) { st with inHand := 0, held := st.held + 1 }
  /-- The host does not keep the task that it is offered, and it is lost. -/
  | lost {reception : Reception} (about : bridge.subject (.offer reception false) = some key)
      (offered : st.inHand = 1) :
      Change bridge key st (.offer reception false)
        { st with
          submission := st.submission.map fun s => { s with slot := some .abandoned }
          inHand := 0 }
  /-- The function is applied. -/
  | begun {world : ω} {s : Submission π ω ρ} (record : st.submission = some s)
      (holds : 0 < st.held) :
      Change bridge key st (.begin key world)
        { st with
          submission :=
            some { s with outcomes := (s.callback.invoke world).outcome :: s.outcomes }
          held := st.held - 1
          running := milestones (s.callback.invoke world).outcome :: st.running }
  /-- The task is counted. -/
  | counted {timing : Timing} {success : Bool} {rest : List (Milestone ρ)}
      {others : List (List (Milestone ρ))}
      (ahead : st.running = (.counted success :: rest) :: others) :
      Change bridge key st (.advance key timing) { st with running := remaining rest }
  /-- The driver is released. -/
  | released {timing : Timing} {completion : Completion ρ} {rest : List (Milestone ρ)}
      {others : List (List (Milestone ρ))}
      (ahead : st.running = (.released completion :: rest) :: others) :
      Change bridge key st (.advance key timing)
        { st with
          submission := st.submission.map fun s => { s with slot := some completion }
          running := remaining rest }
  /-- The host is told how the task has ended. -/
  | ended {timing : Timing} {fault : Option Fault} {rest : List (Milestone ρ)}
      {others : List (List (Milestone ρ))}
      (ahead : st.running = (.ended fault :: rest) :: others) :
      Change bridge key st (.advance key timing) { st with running := remaining rest }
  /-- A task with nothing ahead is gone. -/
  | finished {timing : Timing} {others : List (List (Milestone ρ))}
      (ahead : st.running = [] :: others) :
      Change bridge key st (.advance key timing) { st with running := [] }
  /-- The host drops the task. -/
  | dropped (holds : 0 < st.held) :
      Change bridge key st (.drop key)
        { st with
          submission := st.submission.map fun s => { s with slot := some .abandoned }
          held := st.held - 1 }

/-! ### Standings of changed bridges -/

variable {bridge after : Bridge π ω ρ} {key : Nat}

@[simp]
theorem standing_write (lines : List LogLine) :
    (bridge.write lines).standing key = bridge.standing key := rfl

@[simp]
theorem standing_count (change : Metrics → Metrics) :
    (bridge.count change).standing key = bridge.standing key := rfl

@[simp]
theorem standing_surface (ticket : Ticket) (fault : Option Fault) :
    (bridge.surface ticket fault).standing key = bridge.standing key := rfl

/-- Revising one submission changes its record and nothing else. -/
theorem standing_revise (subject : Nat) (change : Submission π ω ρ → Submission π ω ρ) :
    (bridge.revise subject change).standing key =
      if subject = key then
        { bridge.standing key with submission := (bridge.standing key).submission.map change }
      else bridge.standing key := by
  by_cases h : subject = key <;> simp [standing, revise, Array.getElem?_modify, h]

theorem standing_revise_self (change : Submission π ω ρ → Submission π ω ρ) :
    (bridge.revise key change).standing key =
      { bridge.standing key with submission := (bridge.standing key).submission.map change } := by
  rw [standing_revise, if_pos rfl]

theorem standing_revise_ne {subject : Nat} (h : subject ≠ key)
    (change : Submission π ω ρ → Submission π ω ρ) :
    (bridge.revise subject change).standing key = bridge.standing key := by
  rw [standing_revise, if_neg h]

/-- Another dispatcher changes how often a ticket is queued and in its hand. -/
theorem standing_withDispatcher (dispatcher : Dispatcher Ticket) :
    (bridge.withDispatcher dispatcher).standing key =
      { bridge.standing key with
        queued := dispatcher.queue.pending.countP (·.key = key)
        inHand := dispatcher.hand.countP (·.key = key) } := rfl

variable {move : Move π ω ρ} {subject : Nat}

/-- A move that is about no submission leaves all standings alone. -/
theorem Change.of_none (about : bridge.subject move = none)
    (frame : after.standing key = bridge.standing key) :
    Change bridge key (bridge.standing key) move (after.standing key) := by
  rw [frame]
  exact .aside (by simp [about])

/-- A move changes the standing of its subject and leaves all others alone. -/
theorem Change.of_some (about : bridge.subject move = some subject)
    (frame : ∀ other, subject ≠ other → after.standing other = bridge.standing other)
    (own : Change bridge subject (bridge.standing subject) move (after.standing subject)) :
    Change bridge key (bridge.standing key) move (after.standing key) := by
  -- Either the standing is that of the subject, or the frame says that it has not changed.
  by_cases same : subject = key
  · subst same
    exact own
  · rw [frame key same]
    exact .aside (by simpa [about] using same)

/-! ### The moves of drivers -/

theorem draw_change (callback : Callback π ω ρ) :
    Change bridge key (bridge.standing key) (.draw callback)
      ((bridge.draw callback).2.standing key) := by
  have about : bridge.subject (.draw callback) = some bridge.submissions.size := rfl
  refine .of_some about (fun other h => ?_) ?_
  · simp [draw, place, count, standing, Array.getElem?_push, Ne.symm h]
  · have result : (bridge.draw callback).2.standing bridge.submissions.size =
        { bridge.standing bridge.submissions.size with
          submission := some { id := bridge.submissions.size + 1, callback := callback } } := by
      simp [draw, place, count, standing]
    rw [result]
    exact .drawn rfl (by simp [standing])

theorem push_change (made : bridge.push subject = some after) :
    Change bridge key (bridge.standing key) (.push subject) (after.standing key) := by
  obtain ⟨s, record, drawn, ⟨opened, lines, rfl⟩ | ⟨closed, rfl⟩⟩ := push_eq_some made
  · have submission : (bridge.standing subject).submission = some s := record
    refine .of_some rfl (fun other same => ?_) ?_
    · rw [standing_write, bring, standing_revise_ne same, standing_withDispatcher]
      simp [standing, Queue.push_of_open opened, Dispatcher.hand, same]
    · rw [standing_write, bring, standing_revise_self, standing_withDispatcher]
      convert Change.queued submission drawn opened using 1
      simp [standing, Queue.push_of_open opened, Dispatcher.hand, record]
  · have submission : (bridge.standing subject).submission = some s := record
    refine .of_some rfl (fun other same => ?_) ?_
    · rw [bring, complete, standing_revise_ne same, standing_revise_ne same]
    · rw [bring, complete, standing_revise_self, standing_revise_self]
      simp only [submission, Option.map_some]
      exact .refused submission drawn closed

theorem collect_change (made : bridge.collect subject = some after) :
    Change bridge key (bridge.standing key) (.collect subject) (after.standing key) := by
  obtain ⟨s, completion, record, waiting, filled, rfl⟩ := collect_eq_some made
  have submission : (bridge.standing subject).submission = some s := record
  refine .of_some rfl (fun other same => standing_revise_ne same _) ?_
  rw [standing_revise_self, submission]
  exact .collected submission waiting filled

theorem expire_change (made : bridge.expire subject = some after) :
    Change bridge key (bridge.standing key) (.expire subject) (after.standing key) := by
  obtain ⟨s, limit, record, waiting, empty, limited, rfl⟩ := expire_eq_some made
  have submission : (bridge.standing subject).submission = some s := record
  refine .of_some rfl (fun other same => standing_revise_ne same _) ?_
  rw [bring, standing_revise_self, submission]
  exact .expired submission waiting empty limited

theorem leave_change (made : bridge.leave subject = some after) :
    Change bridge key (bridge.standing key) (.leave subject) (after.standing key) := by
  obtain ⟨s, result, record, leaving, rfl⟩ := leave_eq_some made
  have submission : (bridge.standing subject).submission = some s := record
  refine .of_some rfl (fun other same => ?_) ?_
  · rw [bring, standing_revise_ne same, standing_write, standing_count]
  · rw [bring, standing_revise_self, standing_write, standing_count, submission]
    exact .left submission leaving

/-! ### The moves of the dispatcher -/

theorem take_change (made : bridge.take = some after) :
    Change bridge key (bridge.standing key) .take (after.standing key) := by
  obtain ⟨dispatcher, lines, taken, rfl⟩ := take_eq_some made
  obtain ⟨idle, ⟨oldest, rest, h, rfl⟩ | ⟨h, -, rfl⟩⟩ := Dispatcher.take_cases taken
  · have about : bridge.subject .take = some oldest.key := by simp [Bridge.subject, h]
    refine .of_some about (fun other same => ?_) ?_
    · rw [standing_write, standing_withDispatcher]
      simp [standing, Dispatcher.hand, idle, h, same]
    · have own : Change bridge oldest.key (bridge.standing oldest.key) .take
          { bridge.standing oldest.key with
            queued := (bridge.standing oldest.key).queued - 1
            inHand := 1 } :=
        .taken (by simp [standing, h]) (by simp [standing, Dispatcher.hand, idle])
      rw [standing_write, standing_withDispatcher]
      convert own using 1
      simp [standing, Dispatcher.hand, h]
  · -- The queue closes, and no unit is concerned.
    refine .of_none (by simp [Bridge.subject, h]) ?_
    rw [standing_write, standing_withDispatcher]
    simp [standing, Dispatcher.hand, idle]

theorem offer_change {reception : Reception} {keeps : Bool}
    (made : bridge.offer reception keeps = some after) :
    Change bridge key (bridge.standing key) (.offer reception keeps) (after.standing key) := by
  obtain ⟨ticket, dispatcher, lines, offered, rfl⟩ := offer_eq_some made
  obtain ⟨offering, rfl⟩ := Dispatcher.offer_eq_some_iff.mp offered
  have hand : bridge.dispatcher.hand = [ticket] := by simp [Dispatcher.hand, offering]
  have about : bridge.subject (.offer reception keeps) = some ticket.key := by
    simp [Bridge.subject, hand]
  have inHand : (bridge.standing ticket.key).inHand = 1 := by simp [standing, hand]
  cases keeps with
  | true =>
    refine .of_some about (fun other same => ?_) ?_
    · simp [standing, withDispatcher, write, Dispatcher.hand, offering, same]
    · convert Change.kept inHand using 1
      simp [standing, withDispatcher, write, Dispatcher.hand]
  | false =>
    refine .of_some about (fun other same => ?_) ?_
    · rw [if_neg Bool.false_ne_true, complete, standing_revise_ne same, standing_write,
        standing_withDispatcher]
      simp [standing, Dispatcher.hand, offering, same]
    · rw [if_neg Bool.false_ne_true, complete, standing_revise_self, standing_write,
        standing_withDispatcher]
      exact .lost about inHand

/-! ### The moves of the host -/

/-- A task among those held is counted in the standing of its submission. -/
theorem held_pos {ticket : Ticket} (member : ticket ∈ bridge.held) :
    0 < (bridge.standing ticket.key).held :=
  List.countP_pos_iff.mpr ⟨ticket, member, by simp⟩

theorem begin_change {world : ω} (made : (bridge.begin subject world).map (·.2) = some after) :
    Change bridge key (bridge.standing key) (.begin subject world) (after.standing key) := by
  obtain ⟨ticket, s, lines, member, rfl, record, rfl⟩ := begin_eq_some made
  refine .of_some rfl (fun other same => ?_) ?_
  · simp [standing, count, revise, write, Array.getElem?_modify, List.countP_erase, same]
  · have own := @Change.begun _ _ _ bridge ticket.key _ world _ record (held_pos member)
    convert own using 1
    simp [standing, count, revise, write, Array.getElem?_modify, List.countP_erase, member, record]

/-- The task that advances is the first of its kind, and what is ahead of it comes first. -/
theorem running_of_find? {task : Running ρ}
    (found : bridge.running.find? (·.ticket.key = subject) = some task) :
    task.ticket.key = subject ∧
      ∃ others, (bridge.standing subject).running = task.ahead :: others := by
  refine ⟨by simpa using List.find?_some found, ?_⟩
  rw [← List.head?_filter] at found
  obtain ⟨others, first⟩ := List.head?_eq_some_iff.mp found
  exact ⟨others.map (·.ahead), by rw [standing, first, List.map_cons]⟩

/-- A running task of one submission is not one of another. -/
theorem filter_others (h : subject ≠ key) (running : List (Running ρ)) :
    (running.filter fun task => task.ticket.key = key && !decide (task.ticket.key = subject)) =
      running.filter (·.ticket.key = key) := by
  refine List.filter_congr fun task _ => ?_
  by_cases same : task.ticket.key = key
  · simp [same, h.symm]
  · simp [same]

/-- What is ahead of a task that goes on changes for its own submission only. -/
theorem standing_left {ticket : Ticket} {rest : List (Milestone ρ)} (same : ticket.key = subject) :
    ({ bridge with
        running :=
          if rest.isEmpty then bridge.running.filter (·.ticket.key ≠ subject)
          else ⟨ticket, rest⟩ :: bridge.running.filter (·.ticket.key ≠ subject) } :
      Bridge π ω ρ).standing key =
      if subject = key then { bridge.standing key with running := remaining rest }
      else bridge.standing key := by
  by_cases h : subject = key
  · cases rest <;> simp [standing, remaining, same, h]
  · cases rest <;> simp [standing, filter_others h, same, h]

theorem advance_change {timing : Timing} (made : bridge.advance subject timing = some after) :
    Change bridge key (bridge.standing key) (.advance subject timing) (after.standing key) := by
  obtain ⟨⟨ticket, milestones⟩, found, h⟩ := advance_eq_some made
  obtain ⟨same, others, ahead⟩ := running_of_find? found
  dsimp only at same ahead h
  -- What is ahead is split off first, for all milestones alike; each then has its own effect.
  obtain ⟨rfl, rfl⟩ | ⟨milestone, rest, rfl, rfl⟩ := h
  · refine .of_some rfl (fun other distinct => ?_) ?_
    · simp [standing, filter_others distinct]
    · convert Change.finished ahead using 1
      simp [standing]
  · cases milestone with
    | counted success =>
      refine .of_some rfl (fun other distinct => ?_) ?_
      · rw [reach, standing_count, standing_left same, if_neg distinct]
      · rw [reach, standing_count, standing_left same, if_pos rfl]
        exact .counted ahead
    | released completion =>
      obtain rfl := same
      refine .of_some rfl (fun other distinct => ?_) ?_
      · rw [reach, complete, standing_revise_ne distinct, standing_left rfl, if_neg distinct]
      · rw [reach, complete, standing_revise_self, standing_left rfl, if_pos rfl]
        exact .released ahead
    | ended fault =>
      refine .of_some rfl (fun other distinct => ?_) ?_
      · rw [reach, standing_surface, standing_left same, if_neg distinct]
      · rw [reach, standing_surface, standing_left same, if_pos rfl]
        exact .ended ahead

theorem drop_change (made : bridge.drop subject = some after) :
    Change bridge key (bridge.standing key) (.drop subject) (after.standing key) := by
  obtain ⟨⟨ticket, without⟩, released, rfl⟩ := Option.map_eq_some_iff.mp made
  obtain ⟨member, rfl, rfl⟩ := release_eq_some released
  dsimp only [complete]
  refine .of_some rfl (fun other same => ?_) ?_
  · rw [standing_revise_ne same]
    simp [standing, List.countP_erase, same]
  · rw [standing_revise_self]
    convert Change.dropped (held_pos member) using 1
    simp [standing, List.countP_erase, member]

/-! ### Any move -/

/-- Every move changes every standing in one of the listed ways. -/
theorem step_change (made : bridge.step move = some after) :
    Change bridge key (bridge.standing key) move (after.standing key) := by
  cases move with
  | draw callback =>
    obtain rfl := Option.some.inj made
    exact draw_change callback
  | push => exact push_change made
  | collect => exact collect_change made
  | expire => exact expire_change made
  | leave => exact leave_change made
  | abort =>
    obtain rfl := Option.some.inj made
    exact .of_none rfl rfl
  | take => exact take_change made
  | offer => exact offer_change made
  | settle =>
    obtain ⟨dispatcher, settled, rfl⟩ := Option.map_eq_some_iff.mp made
    obtain ⟨settling, rfl⟩ := Dispatcher.settle_eq_some_iff.mp settled
    exact .of_none rfl (by simp [standing, withDispatcher, Dispatcher.hand, settling])
  | retire =>
    obtain ⟨dispatcher, retired, rfl⟩ := Option.map_eq_some_iff.mp made
    obtain ⟨closing, rfl⟩ := Dispatcher.retire_eq_some_iff.mp retired
    exact .of_none rfl (by simp [standing, withDispatcher, write, Dispatcher.hand, closing])
  | begin => exact begin_change made
  | advance => exact advance_change made
  | drop => exact drop_change made

end Bridge
end CallbackFerry
