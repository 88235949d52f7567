import CallbackFerry.Proofs.Queue.History
import CallbackFerry.Queue.Monitor

/-!
# Nobody sleeps through anything

Any number of threads push, pop, ask for more and abort.  Those who find nothing fall asleep, and
they wake because of a push, because of an abort, or for no reason.  `Change` lists what a move can
do to the queue and to those who wait at it, and `step_change` says that the list is complete.

A push wakes one sleeper only, and before it looks somebody else may take the unit, or more units
may come.  What saves the others is a count: while anybody is asleep, every unit in the queue has a
consumer of its own that was woken and has not looked yet (`Watched.covered`).  A push adds one to
both sides of this count, and a woken consumer that looks takes one from both.

So there is never anything to be told while all who wait are asleep (`Attended.roused`).
-/

namespace CallbackFerry.Monitor

variable {τ : Type}

/-! ### What a move does -/

/-- A push wakes nobody where nobody is asleep, and else one of the sleepers. -/
theorem wakeOne_cases (favourite : Nat) (monitor : Monitor τ) :
    (monitor.asleep = [] ∧ monitor.wakeOne favourite = monitor) ∨
      ∃ who ∈ monitor.asleep, monitor.wakeOne favourite = monitor.wake who := by
  unfold wakeOne
  split
  · next asleep => exact .inr ⟨favourite, asleep, rfl⟩
  · split
    · next longest others asleep =>
      exact .inr ⟨longest, by rw [asleep]; exact List.mem_cons_self, rfl⟩
    · next asleep => exact .inl ⟨asleep, rfl⟩

/-- Somebody looks and gets the oldest unit, or is told to stop, or falls asleep. -/
theorem look_cases (who : Nat) (monitor : Monitor τ) :
    (∃ oldest rest, monitor.queue.pending = oldest :: rest ∧
        monitor.look who =
          (some (.unit oldest), { monitor with queue := { monitor.queue with pending := rest } })) ∨
      (monitor.queue.pending = [] ∧ monitor.queue.aborted = true ∧
        monitor.look who =
          (some .stop, { monitor with queue := { monitor.queue with closed := true } })) ∨
      (monitor.queue.pending = [] ∧ monitor.queue.aborted = false ∧
        monitor.look who = (none, { monitor with asleep := monitor.asleep ++ [who] })) := by
  cases queued : monitor.queue.pending with
  | cons oldest rest =>
    refine .inl ⟨oldest, rest, rfl, ?_⟩
    rw [look, Queue.next?_of_cons queued]
  | nil =>
    cases aborted : monitor.queue.aborted with
    | true =>
      refine .inr (.inl ⟨rfl, rfl, ?_⟩)
      rw [look, Queue.next?_eq_stop_iff.mpr ⟨queued, aborted, rfl⟩]
    | false =>
      refine .inr (.inr ⟨rfl, rfl, ?_⟩)
      simp [look, Queue.next?, queued, aborted]

/-- What looking can do to a monitor. -/
inductive Looked (who : Nat) (monitor : Monitor τ) : Monitor τ → Prop
  /-- The oldest unit is handed out. -/
  | served {oldest : τ} {rest : List τ} (queued : monitor.queue.pending = oldest :: rest) :
      Looked who monitor { monitor with queue := { monitor.queue with pending := rest } }
  /-- There will be no more. -/
  | stopped (aborted : monitor.queue.aborted = true) :
      Looked who monitor { monitor with queue := { monitor.queue with closed := true } }
  /-- There is nothing to be told. -/
  | slept (empty : monitor.queue.pending = []) (going : monitor.queue.aborted = false) :
      Looked who monitor { monitor with asleep := monitor.asleep ++ [who] }

theorem looked_look (who : Nat) (monitor : Monitor τ) :
    Looked who monitor (monitor.look who).2 := by
  rcases look_cases who monitor with ⟨oldest, rest, queued, same⟩ | ⟨-, aborted, same⟩ |
    ⟨empty, going, same⟩
  · rw [same]
    exact .served queued
  · rw [same]
    exact .stopped aborted
  · rw [same]
    exact .slept empty going

/-- What a move can do to a monitor. -/
inductive Change (monitor : Monitor τ) : Move τ → Monitor τ → Prop
  /-- A unit is queued, and a sleeper is woken. -/
  | roused {unit : τ} {favourite who : Nat} (asleep : who ∈ monitor.asleep) :
      Change monitor (.push unit favourite)
        { queue := { monitor.queue with pending := monitor.queue.pending ++ [unit] }
          asleep := monitor.asleep.erase who
          woken := monitor.woken ++ [who] }
  /-- A unit is queued, and nobody is asleep. -/
  | queued {unit : τ} {favourite : Nat} (nobody : monitor.asleep = []) :
      Change monitor (.push unit favourite)
        { monitor with
          queue := { monitor.queue with pending := monitor.queue.pending ++ [unit] } }
  /-- A closed queue takes nothing. -/
  | refused {unit : τ} {favourite : Nat} : Change monitor (.push unit favourite) monitor
  /-- A unit is taken without waiting. -/
  | popped {oldest : τ} {rest : List τ} (queued : monitor.queue.pending = oldest :: rest) :
      Change monitor .pop { monitor with queue := { monitor.queue with pending := rest } }
  /-- There is no unit to be taken. -/
  | missed : Change monitor .pop monitor
  /-- Somebody who is not waiting looks. -/
  | asked {who : Nat} {after : Monitor τ} (fresh : who ∉ monitor.asleep ∧ who ∉ monitor.woken)
      (looked : Looked who monitor after) : Change monitor (.ask who) after
  /-- Somebody who was woken looks. -/
  | resumed {who : Nat} {after : Monitor τ} (woken : who ∈ monitor.woken)
      (looked : Looked who { monitor with woken := monitor.woken.erase who } after) :
      Change monitor (.resume who) after
  /-- A sleeper wakes for no reason. -/
  | stirred {who : Nat} (asleep : who ∈ monitor.asleep) :
      Change monitor (.stir who) (monitor.wake who)
  /-- Everybody is woken. -/
  | aborted :
      Change monitor .abort
        { queue := monitor.queue.abort
          asleep := []
          woken := monitor.woken ++ monitor.asleep }

variable {monitor now after : Monitor τ} {move : Move τ} {who : Nat}
  {past : List (Moment (Monitor τ) (Move τ))}

theorem push_change (unit : τ) (favourite : Nat) (monitor : Monitor τ) :
    Change monitor (.push unit favourite) (monitor.push unit favourite).2 := by
  unfold push
  cases closed : monitor.queue.closed with
  | true =>
    rw [Queue.push_of_closed closed]
    exact .refused
  | false =>
    rw [Queue.push_of_open closed]
    let queued : Monitor τ :=
      { monitor with
        queue := { monitor.queue with pending := monitor.queue.pending ++ [unit] } }
    show Change monitor (.push unit favourite) (queued.wakeOne favourite)
    rcases wakeOne_cases favourite queued with ⟨nobody, same⟩ | ⟨who, asleep, same⟩
    · rw [same]
      exact .queued nobody
    · rw [same]
      exact .roused asleep

theorem pop_change (monitor : Monitor τ) : Change monitor .pop monitor.pop.2 := by
  cases queued : monitor.queue.pending with
  | nil =>
    have same : monitor.pop.2 = monitor := by simp [pop, Queue.pop, queued]
    rw [same]
    exact .missed
  | cons oldest rest =>
    have same : monitor.pop.2 =
        { monitor with queue := { monitor.queue with pending := rest } } := by
      simp [pop, Queue.pop, queued]
    rw [same]
    exact .popped queued

theorem step_change (made : monitor.step move = some after) : Change monitor move after := by
  cases move with
  | push unit favourite =>
    obtain rfl := Option.some.inj made
    exact push_change unit favourite monitor
  | pop =>
    obtain rfl := Option.some.inj made
    exact pop_change monitor
  | ask who =>
    obtain ⟨⟨answer, next⟩, asked, rfl⟩ := Option.map_eq_some_iff.mp made
    unfold ask at asked
    split at asked
    · cases asked
    · next fresh =>
      have looked := looked_look who monitor
      rw [Option.some.inj asked] at looked
      exact .asked (not_or.mp fresh) looked
  | resume who =>
    obtain ⟨⟨answer, next⟩, resumed, rfl⟩ := Option.map_eq_some_iff.mp made
    unfold resume at resumed
    split at resumed
    · next woken =>
      have looked := looked_look who { monitor with woken := monitor.woken.erase who }
      rw [Option.some.inj resumed] at looked
      exact .resumed woken looked
    · cases resumed
  | stir who =>
    have stirred : monitor.stir who = some after := made
    unfold stir at stirred
    split at stirred
    · next asleep =>
      obtain rfl := Option.some.inj stirred
      exact .stirred asleep
    · cases stirred
  | abort =>
    obtain rfl := Option.some.inj made
    exact .aborted

/-! ### The count -/

/-- Whether nobody sleeps through anything. -/
structure Watched (monitor : Monitor τ) : Prop where
  /-- Nobody waits twice. -/
  distinct : (monitor.asleep ++ monitor.woken).Nodup
  /-- While somebody is asleep, every unit has a consumer that was woken and has not looked. -/
  covered : monitor.asleep ≠ [] → monitor.queue.pending.length ≤ monitor.woken.length
  /-- While somebody is asleep, nobody has asked to stop. -/
  going : monitor.asleep ≠ [] → monitor.queue.aborted = false

/-- Waking a sleeper moves it from one place to the other. -/
theorem wake_perm (asleep : who ∈ monitor.asleep) :
    (monitor.asleep.erase who ++ (monitor.woken ++ [who])).Perm
      (monitor.asleep ++ monitor.woken) := by
  calc
    List.Perm (monitor.asleep.erase who ++ (monitor.woken ++ [who]))
        (monitor.asleep.erase who ++ who :: monitor.woken) :=
      (List.perm_append_singleton who monitor.woken).append_left _
    List.Perm _ (who :: monitor.asleep.erase who ++ monitor.woken) := List.perm_middle
    List.Perm _ (monitor.asleep ++ monitor.woken) :=
      (List.perm_cons_erase asleep).symm.append_right _

/-- Looking makes nobody sleep through anything, even if there is one unit more than consumers that
were woken: the one that looks takes it. -/
theorem Looked.watched (looked : Looked who monitor after)
    (fresh : who ∉ monitor.asleep ++ monitor.woken)
    (distinct : (monitor.asleep ++ monitor.woken).Nodup)
    (covered : monitor.asleep ≠ [] → monitor.queue.pending.length ≤ monitor.woken.length + 1)
    (going : monitor.asleep ≠ [] → monitor.queue.aborted = false) : after.Watched := by
  cases looked with
  | served queued =>
    -- It takes the unit that was one too many.
    refine ⟨distinct, fun somebody => ?_, going⟩
    have count := covered somebody
    rw [queued, List.length_cons] at count
    exact Nat.le_of_succ_le_succ count
  | stopped aborted =>
    refine ⟨distinct, fun somebody => ?_, going⟩
    rw [going somebody] at aborted
    cases aborted
  | slept empty running =>
    refine ⟨?_, fun _ => ?_, fun _ => running⟩
    · have moved : (monitor.asleep ++ [who] ++ monitor.woken).Perm
          (who :: (monitor.asleep ++ monitor.woken)) := by
        rw [List.append_assoc]
        exact List.perm_middle
      exact moved.nodup_iff.mpr (List.nodup_cons.mpr ⟨fresh, distinct⟩)
    · show monitor.queue.pending.length ≤ _
      rw [empty]
      exact Nat.zero_le _

/-- No move makes anybody sleep through anything. -/
theorem Watched.step (watched : monitor.Watched) (made : monitor.step move = some after) :
    after.Watched := by
  obtain ⟨distinct, covered, going⟩ := watched
  cases step_change made with
  | roused asleep =>
    have somebody : monitor.asleep ≠ [] := List.ne_nil_of_mem asleep
    refine ⟨(wake_perm asleep).nodup_iff.mpr distinct, fun _ => ?_, fun _ => going somebody⟩
    -- One more unit, and one more that was woken for it.
    have count := covered somebody
    simp only [List.length_append, List.length_singleton]
    omega
  | queued nobody => exact ⟨distinct, fun somebody => absurd nobody somebody, going⟩
  | refused | missed => exact ⟨distinct, covered, going⟩
  | popped queued =>
    refine ⟨distinct, fun somebody => ?_, going⟩
    have count := covered somebody
    rw [queued, List.length_cons] at count
    exact Nat.le_of_succ_le count
  | asked fresh looked =>
    refine looked.watched (by simpa using fresh) distinct (fun somebody => ?_) going
    exact Nat.le_succ_of_le (covered somebody)
  | @resumed who _ woken looked =>
    -- The one that looks is not counted any more, but the unit that it may get still is.
    have apart : monitor.woken.Perm (who :: monitor.woken.erase who) := List.perm_cons_erase woken
    have moved : (monitor.asleep ++ monitor.woken).Perm
        (who :: (monitor.asleep ++ monitor.woken.erase who)) :=
      (apart.append_left _).trans List.perm_middle
    obtain ⟨fresh, rest⟩ := List.nodup_cons.mp (moved.nodup_iff.mp distinct)
    refine looked.watched fresh rest (fun somebody => ?_) going
    have count := covered somebody
    rw [apart.length_eq, List.length_cons] at count
    exact count
  | stirred asleep =>
    have somebody : monitor.asleep ≠ [] := List.ne_nil_of_mem asleep
    refine ⟨(wake_perm asleep).nodup_iff.mpr distinct, fun _ => ?_, fun _ => going somebody⟩
    have count := covered somebody
    simp only [wake, List.length_append, List.length_singleton]
    omega
  | aborted =>
    refine ⟨?_, fun somebody => absurd rfl somebody, fun somebody => absurd rfl somebody⟩
    show (monitor.woken ++ monitor.asleep).Nodup
    exact List.perm_append_comm.nodup_iff.mpr distinct

theorem watched_of_run (run : Run step ({} : Monitor τ) past now) : now.Watched :=
  run.preserves (fun _ _ _ made watched => watched.step made)
    ⟨List.nodup_nil, fun somebody => absurd rfl somebody, fun somebody => absurd rfl somebody⟩

/-! ### What consumers are told -/

/-- The answer that a consumer got in a moment, if it got one. -/
def told (moment : Moment (Monitor τ) (Move τ)) : Option (Next τ) :=
  match moment.move with
  | .ask who => (moment.before.ask who).bind (·.1)
  | .resume who => (moment.before.resume who).bind (·.1)
  | _ => none

theorem of_look_stop (stop : (monitor.look who).1 = some .stop) :
    monitor.queue.aborted = true ∧ monitor.queue.pending = [] := by
  rcases look_cases who monitor with ⟨oldest, rest, -, same⟩ | ⟨empty, aborted, -⟩ | ⟨-, -, same⟩
  · rw [same] at stop
    cases stop
  · exact ⟨aborted, empty⟩
  · rw [same] at stop
    cases stop

theorem of_told_stop {moment : Moment (Monitor τ) (Move τ)} (stop : told moment = some .stop) :
    moment.before.queue.aborted = true ∧ moment.before.queue.pending = [] := by
  obtain ⟨before, move⟩ := moment
  cases move with
  | ask who =>
    obtain ⟨⟨answer, after⟩, asked, rfl⟩ := Option.bind_eq_some_iff.mp stop
    unfold ask at asked
    split at asked
    · cases asked
    · exact of_look_stop (congrArg Prod.fst (Option.some.inj asked))
  | resume who =>
    obtain ⟨⟨answer, after⟩, resumed, rfl⟩ := Option.bind_eq_some_iff.mp stop
    unfold resume at resumed
    split at resumed
    · -- The queue does not depend on who was woken.
      have told : ({ before with woken := before.woken.erase who }.look who).1 = some .stop :=
        congrArg Prod.fst (Option.some.inj resumed)
      have stopped := of_look_stop told
      exact stopped
    · cases resumed
  | _ => cases stop

/-- What holds of a monitor at all times, now and in what has happened. -/
structure Attended (past : List (Moment (Monitor τ) (Move τ))) (now : Monitor τ) : Prop where
  /-- Nobody is asleep twice, woken twice, or both. -/
  distinct : (now.asleep ++ now.woken).Nodup
  /-- While somebody is asleep, there are no more units in the queue than consumers that were woken
  and have not looked, and nobody has asked to stop. -/
  covered : ∀ who ∈ now.asleep,
    now.queue.pending.length ≤ now.woken.length ∧ now.queue.aborted = false
  /-- While there is something to be told, those who wait are not all asleep. -/
  roused : now.queue.pending ≠ [] ∨ now.queue.aborted = true →
    ∀ who ∈ now.asleep ++ now.woken, ∃ other, other ∈ now.woken
  /-- While there is something to be told, whoever was woken is told at once. -/
  served : now.queue.pending ≠ [] ∨ now.queue.aborted = true →
    ∀ who ∈ now.woken, ∃ answer after, now.resume who = some (some answer, after)
  /-- Whoever was woken and finds nothing goes back to sleep, and nothing else happens. -/
  sleeps : now.queue.pending = [] → now.queue.aborted = false → ∀ who ∈ now.woken,
    now.resume who = some (none,
      { now with asleep := now.asleep ++ [who], woken := now.woken.erase who })
  /-- Nobody was ever told to stop except by a queue that was aborted and empty. -/
  stops : ∀ moment ∈ past, told moment = some .stop →
    moment.before.queue.aborted = true ∧ moment.before.queue.pending = []

theorem resume_eq_look (woken : who ∈ monitor.woken) :
    monitor.resume who = some ({ monitor with woken := monitor.woken.erase who }.look who) :=
  if_pos woken

/-- While somebody is asleep and there is something to be told, somebody was woken. -/
theorem Watched.exists_woken (watched : monitor.Watched) (asleep : who ∈ monitor.asleep)
    (news : monitor.queue.pending ≠ [] ∨ monitor.queue.aborted = true) :
    ∃ other, other ∈ monitor.woken := by
  have somebody : monitor.asleep ≠ [] := List.ne_nil_of_mem asleep
  -- Nobody has asked to stop, so the news is a unit, and somebody was woken for it.
  have queued : monitor.queue.pending ≠ [] := by
    rcases news with queued | aborted
    · exact queued
    · rw [watched.going somebody] at aborted
      cases aborted
  have count := watched.covered somebody
  have positive : 0 < monitor.queue.pending.length := List.length_pos_iff.mpr queued
  have woken : 0 < monitor.woken.length := by omega
  exact List.exists_mem_of_length_pos woken

theorem resume_of_news (woken : who ∈ monitor.woken)
    (news : monitor.queue.pending ≠ [] ∨ monitor.queue.aborted = true) :
    ∃ answer after, monitor.resume who = some (some answer, after) := by
  rw [resume_eq_look woken]
  rcases look_cases who { monitor with woken := monitor.woken.erase who } with
    ⟨oldest, rest, -, same⟩ | ⟨-, -, same⟩ | ⟨empty, going, -⟩
  · exact ⟨_, _, congrArg Option.some same⟩
  · exact ⟨_, _, congrArg Option.some same⟩
  · rcases news with queued | aborted
    · exact absurd empty queued
    · rw [show monitor.queue.aborted = false from going] at aborted
      cases aborted

/-- In whatever order threads push, pop, ask, abort and wake, a monitor is attended. -/
theorem attended_of_run (run : Run step ({} : Monitor τ) past now) : Attended past now := by
  have watched := watched_of_run run
  constructor
  case distinct => exact watched.distinct
  case covered =>
    intro who asleep
    have somebody : now.asleep ≠ [] := List.ne_nil_of_mem asleep
    exact ⟨watched.covered somebody, watched.going somebody⟩
  case roused =>
    intro news who waits
    rcases List.mem_append.mp waits with asleep | woken
    · exact watched.exists_woken asleep news
    · exact ⟨who, woken⟩
  case served =>
    intro news who woken
    exact resume_of_news woken news
  case sleeps =>
    intro empty going who woken
    rw [resume_eq_look woken]
    simp [look, Queue.next?, empty, going]
  case stops =>
    intro moment _ stop
    exact of_told_stop stop

/-- A unit is stolen before the consumer that was woken for it looks, which goes back to sleep; of
the units that come then each wakes one of the others. -/
theorem attended_of_theft : ∃ past,
    Run step ({} : Monitor Nat) past
        { queue := { pending := [11, 12] }, asleep := [1], woken := [2, 3] } ∧
      past.filterMap told = [] ∧
      Attended past { queue := { pending := [11, 12] }, asleep := [1], woken := [2, 3] } := by
  have run := Run.of_moves step ({} : Monitor Nat)
    [.ask 1, .ask 2, .ask 3, .push 10 1, .pop, .resume 1, .push 11 2, .push 12 3]
  exact ⟨_, run, rfl, attended_of_run run⟩

end CallbackFerry.Monitor
