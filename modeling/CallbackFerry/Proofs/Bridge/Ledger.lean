import CallbackFerry.Proofs.Bridge.Life
import Mathlib.Data.Finset.Card
import Mathlib.Data.Finset.Range

/-!
# The ledger of a bridge

Six counters of a bridge say what became of its submissions.  Each is an `Account`, and a
submission is entered under it once at most: when the call is made, when its task is counted, and
when its driver leaves.  `Standing.accounts` tells from the standing of a submission where it has
been entered, and the `roll` of an account is the set of all submissions entered there.

A move enters one submission at most, under one account, its `entry`.  The counters follow the
entries (`step_balance`) and so do the rolls (`card_roll_step`), and therefore every counter is the
number of the submissions on its roll (`balance_eq_card`).
-/

namespace CallbackFerry

variable {π ω ρ : Type}

/-- A counter that says what became of submissions. -/
inductive Account where
  | submitted
  | completed
  | faulted
  | rejected
  | abandoned
  | timedOut
  deriving DecidableEq

/-- What the counter of an account says. -/
def Metrics.balance (metrics : Metrics) : Account → Nat
  | .submitted => metrics.submitted
  | .completed => metrics.completed
  | .faulted => metrics.faulted
  | .rejected => metrics.rejected
  | .abandoned => metrics.abandoned
  | .timedOut => metrics.timedOut

namespace Account

/-- The account of a task that is counted so. -/
def ofSuccess : Bool → Account
  | true => .completed
  | false => .faulted

/-- The account of a driver that leaves with this result, if there is one for it. -/
def ofResult : Except Failure ρ → Option Account
  | .error .shutDown => some .rejected
  | .error .abandoned => some .abandoned
  | .error (.timeout _) => some .timedOut
  | _ => none

end Account

namespace Standing

/-- Whether a running task is still to be counted. -/
def uncounted (st : Standing π ω ρ) : Bool :=
  st.running.any fun
    | .counted _ :: _ => true
    | _ => false

/-- The account under which the task was counted, if it was. -/
def ran? (st : Standing π ω ρ) : Option Account :=
  if st.uncounted then none
  else st.submission.bind fun s =>
    s.outcomes.head?.map fun outcome => Account.ofSuccess (succeeded outcome)

/-- The account under which the driver has entered how its call ended, if it did. -/
def left? (st : Standing π ω ρ) : Option Account :=
  st.submission.bind fun s =>
    match s.caller with
    | .returned result => Account.ofResult result
    | _ => none

/-- The accounts under which a submission has been entered. -/
def accounts (st : Standing π ω ρ) : List Account :=
  (st.submission.map fun _ => Account.submitted).toList ++ st.ran?.toList ++ st.left?.toList

/-- The account under which a move enters the submission that it is about. -/
def entry (st : Standing π ω ρ) : Bridge.Move π ω ρ → Option Account
  | .draw _ => some .submitted
  | .leave _ => st.submission.bind fun s =>
    match s.caller with
    | .leaving result => Account.ofResult result
    | _ => none
  | .advance _ _ =>
    match st.running with
    | (.counted success :: _) :: _ => some (Account.ofSuccess success)
    | _ => none
  | _ => none

/-- Only a submission that was made has been entered anywhere. -/
theorem accounts_of_none {st : Standing π ω ρ} (absent : st.submission = none) :
    st.accounts = [] := by
  simp [accounts, ran?, left?, absent]

end Standing

theorem Ending.length_running_le {outcomes : List (Except Fault ρ)} {completion : Completion ρ}
    {running : List (List (Milestone ρ))} (ending : Ending outcomes completion running) :
    running.length ≤ 1 := by
  cases ending <;> simp

/-- No submission has two running tasks. -/
theorem Sound.eq_nil_of_cons {timeout : Option Span} {st : Standing π ω ρ}
    {ahead : List (Milestone ρ)} {others : List (List (Milestone ρ))} (sound : Sound timeout st)
    (running : st.running = ahead :: others) : others = [] := by
  have single : st.running.length ≤ 1 := by
    cases sound with
    | completed _ _ ending | collected _ _ ending => exact ending.length_running_le
    | _ => simp
  rw [running, List.length_cons] at single
  exact List.eq_nil_of_length_eq_zero (by omega)

namespace Bridge

variable {bridge after : Bridge π ω ρ} {key : Nat} {st st' : Standing π ω ρ}
  {move : Move π ω ρ} {account : Account}

/-- The account under which a move enters a submission, if it enters one. -/
def entry (bridge : Bridge π ω ρ) (move : Move π ω ρ) : Option Account :=
  (bridge.subject move).bind fun key => (bridge.standing key).entry move

/-! ### Counters -/

/-- Counting a task is an entry under the account of its success. -/
theorem balance_recordExecutedAt (metrics : Metrics) (timing : Timing) (success : Bool) :
    (metrics.recordExecutedAt timing.finished timing.latency success).balance account =
      metrics.balance account + if some (Account.ofSuccess success) = some account then 1 else 0 := by
  cases success <;> cases account <;> rfl

/-- A driver that leaves counts its result under the account for it. -/
theorem balance_parting (number : Nat) (result : Except Failure ρ) (metrics : Metrics) :
    ((parting number result).1 metrics).balance account =
      metrics.balance account + if Account.ofResult result = some account then 1 else 0 := by
  cases result with
  | ok value => rfl
  | error failure => cases failure <;> cases account <;> rfl

/-- A counter changes when a move enters a submission under its account, and then by one. -/
theorem step_balance (made : bridge.step move = some after) (account : Account) :
    after.metrics.balance account =
      bridge.metrics.balance account + if bridge.entry move = some account then 1 else 0 := by
  rw [step_metrics made]
  cases move with
  | draw callback => cases account <;> rfl
  | leave key =>
    obtain ⟨s, result, record, leaving, -⟩ := leave_eq_some made
    have entry : bridge.entry (.leave key) = Account.ofResult result := by
      simp [Bridge.entry, subject, Standing.entry, standing, record, leaving]
    simp only [charge, record, leaving]
    rw [entry]
    exact balance_parting s.id result bridge.metrics
  | begin key world =>
    obtain ⟨ticket, s, lines, -, -, record, -⟩ := begin_eq_some made
    simp only [charge, record]
    cases account <;> rfl
  | advance key timing =>
    obtain ⟨⟨ticket, ahead⟩, found, -⟩ := advance_eq_some made
    obtain ⟨-, others, running⟩ := running_of_find? found
    simp only [charge, found, entry, subject, Option.bind_some, Standing.entry, running]
    -- Only the milestone at which a task is counted changes a counter.
    cases ahead with
    | nil => rfl
    | cons milestone rest =>
      cases milestone with
      | counted success => exact balance_recordExecutedAt ..
      | released completion => rfl
      | ended fault => rfl
  | take =>
    unfold entry
    cases bridge.subject (.take : Move π ω ρ) <;> rfl
  | offer reception keeps =>
    unfold entry
    cases bridge.subject (.offer reception keeps : Move π ω ρ) <;> rfl
  | _ => rfl

/-! ### Entries -/

theorem mem_accounts : account ∈ st.accounts ↔
    (st.submission.isSome ∧ account = .submitted) ∨ st.ran? = some account ∨
      st.left? = some account := by
  unfold Standing.accounts
  cases st.submission <;> simp [eq_comm]

theorem accounts_congr (made : st'.submission.isSome = st.submission.isSome)
    (ran : st'.ran? = st.ran?) (left : st'.left? = st.left?) : st'.accounts = st.accounts := by
  unfold Standing.accounts
  rw [ran, left]
  cases h : st.submission <;> cases h' : st'.submission <;> simp_all

/-- Filling the slot of a submission is no entry. -/
theorem accounts_fill (completion : Completion ρ) (queued inHand held : Nat) :
    (⟨st.submission.map fun s => { s with slot := some completion }, queued, inHand, held,
      st.running⟩ : Standing π ω ρ).accounts = st.accounts := by
  apply accounts_congr
  · simp
  · simp [Standing.ran?, Standing.uncounted, Option.bind_map]
  · simp [Standing.left?, Option.bind_map]

theorem ofSuccess_of_ran? (h : st.ran? = some account) :
    ∃ success, account = .ofSuccess success := by
  unfold Standing.ran? at h
  split at h
  · cases h
  · obtain ⟨s, -, h⟩ := Option.bind_eq_some_iff.mp h
    obtain ⟨outcome, -, rfl⟩ := Option.map_eq_some_iff.mp h
    exact ⟨succeeded outcome, rfl⟩

/-- What a driver enters is neither its call nor the end of its task. -/
theorem ofResult_ne {result : Except Failure ρ} (h : Account.ofResult result = some account) :
    account ≠ .submitted ∧ ∀ success, account ≠ .ofSuccess success := by
  have driver : account = .rejected ∨ account = .abandoned ∨ account = .timedOut := by
    cases result with
    | ok value => cases h
    | error failure => cases failure <;> cases h <;> simp
  rcases driver with rfl | rfl | rfl <;>
    exact ⟨by simp, fun success => by cases success <;> simp [Account.ofSuccess]⟩

theorem left?_ne (h : st.left? = some account) :
    account ≠ .submitted ∧ ∀ success, account ≠ .ofSuccess success := by
  obtain ⟨s, -, h⟩ := Option.bind_eq_some_iff.mp h
  split at h
  · exact ofResult_ne h
  · cases h

/-- A task that is counted was not entered under the account of its success before. -/
theorem accounts_count {success : Bool} (made : st'.submission.isSome = st.submission.isSome)
    (before : st.ran? = none) (after : st'.ran? = some (.ofSuccess success))
    (left : st'.left? = st.left?) :
    .ofSuccess success ∉ st.accounts ∧ ∀ account, account ∈ st'.accounts ↔
      account = .ofSuccess success ∨ account ∈ st.accounts := by
  constructor
  · rw [mem_accounts, before]
    rintro (⟨-, made⟩ | ran | left)
    · cases success <;> cases made
    · cases ran
    · exact (left?_ne left).2 success rfl
  · intro account
    rw [mem_accounts, mem_accounts, made, before, after, left]
    simp only [Option.some.injEq, reduceCtorEq, false_or, eq_comm]
    tauto

/-- A driver that leaves was not entered under the account of its result before. -/
theorem accounts_leave (made : st'.submission.isSome = st.submission.isSome)
    (ran : st'.ran? = st.ran?) (before : st.left? = none) (after : st'.left? = some account) :
    account ∉ st.accounts ∧ ∀ other, other ∈ st'.accounts ↔
      other = account ∨ other ∈ st.accounts := by
  obtain ⟨notMade, notRan⟩ := left?_ne after
  constructor
  · rw [mem_accounts, before]
    rintro (⟨-, made⟩ | ran | left)
    · exact notMade made
    · obtain ⟨success, same⟩ := ofSuccess_of_ran? ran
      exact notRan success same
    · cases left
  · intro other
    rw [mem_accounts, mem_accounts, made, ran, before, after]
    simp only [Option.some.injEq, reduceCtorEq, or_false, eq_comm]
    tauto

/-- A move enters its subject where it has not been entered before, and nobody else. -/
theorem Change.accounts (change : Change bridge key st move st') (sound : Sound bridge.timeout st) :
    ((bridge.subject move = some key → st.entry move = none) ∧ st'.accounts = st.accounts) ∨
    ∃ entered, bridge.subject move = some key ∧ st.entry move = some entered ∧
      entered ∉ st.accounts ∧ ∀ account, account ∈ st'.accounts ↔
        account = entered ∨ account ∈ st.accounts := by
  cases change with
  | aside other => exact .inl ⟨fun about => absurd about other, rfl⟩
  | drawn fresh absent =>
    cases sound with
    | unborn =>
      refine .inr ⟨.submitted, congrArg some fresh, rfl, ?_, fun account => ?_⟩
      · simp [Standing.accounts_of_none]
      · simp [mem_accounts, Standing.ran?, Standing.left?, Standing.uncounted]
    | _ => simp at absent
  | queued record caller | refused record caller | collected record caller | expired record caller =>
    refine .inl ⟨fun _ => rfl, accounts_congr (by simp [record]) ?_ ?_⟩
    · simp [Standing.ran?, Standing.uncounted, record]
    · simp [Standing.left?, record, caller]
  | @left s result record leaving =>
    have entry : st.entry (.leave key) = Account.ofResult result := by
      simp [Standing.entry, record, leaving]
    have ran : (⟨some { s with caller := .returned result }, st.queued, st.inHand, st.held,
        st.running⟩ : Standing π ω ρ).ran? = st.ran? := by
      simp [Standing.ran?, Standing.uncounted, record]
    have before : st.left? = none := by simp [Standing.left?, record, leaving]
    cases told : Account.ofResult result with
    | none =>
      refine .inl ⟨fun _ => entry.trans told, accounts_congr (by simp [record]) ran ?_⟩
      rw [before]
      exact told
    | some entered =>
      obtain ⟨fresh, mem⟩ := accounts_leave (by simp [record]) ran before told
      exact .inr ⟨entered, rfl, entry.trans told, fresh, mem⟩
  | taken | kept => exact .inl ⟨fun _ => rfl, rfl⟩
  | lost | dropped => exact .inl ⟨fun _ => rfl, accounts_fill ..⟩
  | begun record holds =>
    -- Before its function is applied a task is not running, and afterwards it is still to be
    -- counted.
    obtain ⟨s, queued, inHand, held, rfl, -, -, outcomes, -⟩ := sound.of_unit (by omega)
    obtain rfl := Option.some.inj record
    refine .inl ⟨fun _ => rfl, accounts_congr rfl ?_ rfl⟩
    simp [Standing.ran?, Standing.uncounted, milestones, outcomes]
  | counted ahead =>
    obtain ⟨s, outcome, rfl, -, -, outcomes, still | still⟩ | ⟨⟨fault, last⟩, -⟩ :=
      sound.of_running ahead
    · cases still
      refine .inr ⟨_, rfl, rfl, accounts_count rfl ?_ ?_ rfl⟩
      · simp [Standing.ran?, Standing.uncounted]
      · simp [Standing.ran?, Standing.uncounted, remaining, outcomes]
    · cases still
    · cases last
  | released ahead =>
    obtain ⟨s, outcome, rfl, -, -, -, -, rfl⟩ := sound.of_released ahead
    refine .inl ⟨fun _ => rfl, accounts_congr rfl ?_ rfl⟩
    simp [Standing.ran?, Standing.uncounted, milestones, remaining]
  | ended ahead =>
    -- Nothing that is counted is ahead of the task, neither before nor afterwards.
    obtain ⟨s, outcome, rfl, -, -, -, still | still⟩ | ⟨⟨fault, last⟩, -⟩ := sound.of_running ahead
    · cases still
    · cases still
    · cases last
      obtain rfl := sound.eq_nil_of_cons ahead
      refine .inl ⟨fun _ => ?_, accounts_congr rfl ?_ rfl⟩
      · simp [Standing.entry, ahead]
      · simp [Standing.ran?, Standing.uncounted, remaining, ahead]
  | finished ahead =>
    obtain rfl := sound.eq_nil_of_cons ahead
    refine .inl ⟨fun _ => ?_, accounts_congr rfl ?_ rfl⟩
    · simp [Standing.entry, ahead]
    · simp [Standing.ran?, Standing.uncounted, ahead]

/-- A move enters its subject under the account of its entry, and changes nothing else. -/
theorem Change.mem_accounts (change : Change bridge key st move st')
    (sound : Sound bridge.timeout st) : account ∈ st'.accounts ↔
      (bridge.subject move = some key ∧ st.entry move = some account) ∨ account ∈ st.accounts := by
  rcases change.accounts sound with ⟨silent, same⟩ | ⟨entered, about, entry, -, mem⟩
  · rw [same]
    refine ⟨.inr, ?_⟩
    rintro (⟨about, entry⟩ | member)
    · rw [silent about] at entry
      cases entry
    · exact member
  · rw [mem, about, entry]
    simp [eq_comm]

/-- A submission is not entered twice under one account. -/
theorem Change.fresh (change : Change bridge key st move st') (sound : Sound bridge.timeout st)
    (about : bridge.subject move = some key) (entry : st.entry move = some account) :
    account ∉ st.accounts := by
  rcases change.accounts sound with ⟨silent, -⟩ | ⟨entered, -, entry', fresh, -⟩
  · rw [silent about] at entry
    cases entry
  · obtain rfl := Option.some.inj (entry'.symm.trans entry)
    exact fresh

/-! ### Rolls -/

/-- The submissions entered under an account. -/
def roll (account : Account) (bridge : Bridge π ω ρ) : Finset Nat :=
  (Finset.range bridge.submissions.size).filter fun key => account ∈ (bridge.standing key).accounts

theorem mem_roll : key ∈ bridge.roll account ↔ account ∈ (bridge.standing key).accounts := by
  have within : account ∈ (bridge.standing key).accounts → key < bridge.submissions.size := by
    intro member
    by_contra beyond
    have absent : (bridge.standing key).submission = none := by simpa [standing] using beyond
    rw [Standing.accounts_of_none absent] at member
    cases member
  simpa [roll] using within

variable {settings : BridgeSettings} {past : List (Moment (Bridge π ω ρ) (Move π ω ρ))}
  {now : Bridge π ω ρ}

/-- A roll grows when a move enters a submission under its account, and then by one. -/
theorem card_roll_step (sound : ∀ key, Sound bridge.timeout (bridge.standing key))
    (made : bridge.step move = some after) (account : Account) :
    (after.roll account).card =
      (bridge.roll account).card + if bridge.entry move = some account then 1 else 0 := by
  by_cases entered : bridge.entry move = some account
  · obtain ⟨key, about, entry⟩ := Option.bind_eq_some_iff.mp entered
    have grown : after.roll account = insert key (bridge.roll account) := by
      ext other
      rw [Finset.mem_insert, mem_roll, mem_roll, (step_change made).mem_accounts (sound other), about]
      constructor
      · rintro (⟨same, -⟩ | member)
        · exact .inl (Option.some.inj same).symm
        · exact .inr member
      · rintro (rfl | member)
        · exact .inl ⟨rfl, entry⟩
        · exact .inr member
    have fresh : key ∉ bridge.roll account := by
      rw [mem_roll]
      exact (step_change made).fresh (sound key) about entry
    rw [grown, Finset.card_insert_of_notMem fresh, if_pos entered]
  · have same : after.roll account = bridge.roll account := by
      ext key
      rw [mem_roll, mem_roll, (step_change made).mem_accounts (sound key), or_iff_right]
      rintro ⟨about, entry⟩
      exact entered (Option.bind_eq_some_iff.mpr ⟨key, about, entry⟩)
    rw [same, if_neg entered, Nat.add_zero]

/-- Every counter is the number of the submissions on its roll. -/
theorem balance_eq_card (reached : Reached settings past now) (account : Account) :
    now.metrics.balance account = (now.roll account).card := by
  obtain ⟨first, started, run⟩ := reached
  induction run with
  | start =>
    obtain ⟨-, -, rfl⟩ := start_eq_ok_iff.mp started
    cases account <;> rfl
  | next run made ih =>
    have upTo : Reached settings _ _ := ⟨first, started, run⟩
    have sound key := timeout_of_reached upTo ▸ sound_of_reached upTo key
    rw [step_balance made, card_roll_step sound made, ih]

end Bridge
end CallbackFerry
