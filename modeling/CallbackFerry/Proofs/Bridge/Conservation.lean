import CallbackFerry.Proofs.Bridge.Ledger
import CallbackFerry.Proofs.Bridge.Results
import Mathlib.Data.Set.Card

/-!
# What the counters of a bridge add up to

A submission is *closed* when it is counted as completed, faulted, rejected or abandoned.  No
submission is closed under two accounts (`Sound.account_unique`), so never are there more closed
submissions than submissions.

When the bridge is `Quiet`, all submissions are closed but those whose units were destroyed after
their drivers had timed out, the `forsaken` ones.  A driver that times out does not keep the host
from running its task, and the `overdue` submissions, with which that happened, are counted both as
timed out and as completed or faulted.  `conserved_of_reached` states the sums that result.
-/

namespace CallbackFerry

variable {π ω ρ : Type}

/-- Whether an account closes the submissions that are entered there. -/
def Account.Closing (account : Account) : Prop :=
  account = .completed ∨ account = .faulted ∨ account = .rejected ∨ account = .abandoned

namespace Standing

/-- Whether the limit of the driver has passed. -/
def TimedOut (st : Standing π ω ρ) : Prop :=
  ∃ limit, st.Tells (.error (.timeout limit))

/-- Whether the submission is entered under an account that closes it. -/
def Closed (st : Standing π ω ρ) : Prop :=
  ∃ account ∈ st.accounts, account.Closing

/-- Whether nothing can happen to a submission any more: its driver's call is over, and its unit is
nowhere. -/
structure Rests (st : Standing π ω ρ) (s : Submission π ω ρ) (result : Except Failure ρ) :
    Prop where
  record : st.submission = some s
  returned : s.caller = .returned result
  unit : st.queued + st.inHand + st.held = 0
  running : st.running = []

end Standing

section Stages

variable {timeout : Option Span} {st : Standing π ω ρ} {s : Submission π ω ρ}
  {result : Except Failure ρ} {account other : Account}

/-! ### One account for each submission -/

theorem Account.ofSuccess_closing (success : Bool) : (Account.ofSuccess success).Closing := by
  cases success <;> simp [Account.ofSuccess, Account.Closing]

theorem Account.ofResult_eq_timedOut (h : Account.ofResult result = some .timedOut) :
    ∃ limit, result = .error (.timeout limit) := by
  cases result with
  | ok value => cases h
  | error failure =>
    cases failure with
    | timeout limit => exact ⟨limit, rfl⟩
    | _ => cases h

/-- A unit that was lost has a function that was not applied. -/
theorem Ending.eq_nil_of_abandoned {outcomes : List (Except Fault ρ)} {completion : Completion ρ}
    {running : List (List (Milestone ρ))} (ending : Ending outcomes completion running)
    (abandoned : completion = .abandoned) : outcomes = [] := by
  cases ending with
  | lost => rfl
  | ran outcome | gone outcome => exact absurd abandoned (Completion.ofOutcome_ne_abandoned outcome)

/-- A unit whose function was not applied was lost. -/
theorem Ending.eq_abandoned_of_nil {outcomes : List (Except Fault ρ)} {completion : Completion ρ}
    {running : List (List (Milestone ρ))} (ending : Ending outcomes completion running)
    (unapplied : outcomes = []) : completion = .abandoned := by
  cases ending with
  | lost => rfl
  | ran outcome | gone outcome => cases unapplied

/-- A task that was counted has a function that was applied. -/
theorem ne_nil_of_ran? (record : st.submission = some s) (ran : st.ran? = some account) :
    s.outcomes ≠ [] := by
  intro none
  simp [Standing.ran?, record, none] at ran

/-- Of the drivers whose tasks were counted, only those that timed out are counted when they
leave. -/
theorem Sound.left?_of_ran? (sound : Sound timeout st) (ran : st.ran? = some account)
    (left : st.left? = some other) : other = .timedOut := by
  obtain ⟨s, record, left⟩ := Option.bind_eq_some_iff.mp left
  have applied : s.outcomes ≠ [] := ne_nil_of_ran? record ran
  split at left
  · next result returned =>
    have told : s.caller.result? = some result := by rw [returned]; rfl
    obtain ⟨rfl, slot⟩ | ⟨limit, rfl⟩ | ⟨completion, rfl⟩ := sound.result_cases record told
    · exact absurd ((sound.ending record (.inl slot)).eq_nil_of_abandoned rfl) applied
    · exact (Option.some.inj left).symm
    · -- What a driver took from its slot is counted only if it is an abandonment.
      have ending := sound.ending record (.inr told)
      cases completion with
      | value | fault => cases left
      | abandoned => exact absurd (ending.eq_nil_of_abandoned rfl) applied
  · cases left

/-- No submission is closed under two accounts. -/
theorem Sound.account_unique (sound : Sound timeout st) (entered : account ∈ st.accounts)
    (closing : account.Closing) (entered' : other ∈ st.accounts) (closing' : other.Closing) :
    account = other := by
  rw [Bridge.mem_accounts] at entered entered'
  obtain ⟨-, rfl⟩ | ran | left := entered
  · simp [Account.Closing] at closing
  · obtain ⟨-, rfl⟩ | ran' | left' := entered'
    · simp [Account.Closing] at closing'
    · exact Option.some.inj (ran.symm.trans ran')
    · obtain rfl := sound.left?_of_ran? ran left'
      simp [Account.Closing] at closing'
  · obtain ⟨-, rfl⟩ | ran' | left' := entered'
    · simp [Account.Closing] at closing'
    · obtain rfl := sound.left?_of_ran? ran' left
      simp [Account.Closing] at closing
    · exact Option.some.inj (left.symm.trans left')

/-! ### Submissions at rest -/

/-- A driver that timed out is not told that its unit was abandoned. -/
theorem Standing.TimedOut.not_tells (late : st.TimedOut) : ¬ st.Tells (.error .abandoned) := by
  rintro ⟨s, record, told⟩
  obtain ⟨limit, s', record', told'⟩ := late
  obtain rfl := Option.some.inj (record.symm.trans record')
  rw [told] at told'
  cases told'

theorem Standing.Rests.timedOut_iff (rests : st.Rests s result) :
    st.TimedOut ↔ ∃ limit, result = .error (.timeout limit) := by
  have told : s.caller.result? = some result := by rw [rests.returned]; rfl
  constructor
  · rintro ⟨limit, s', record, told'⟩
    obtain rfl := Option.some.inj (record.symm.trans rests.record)
    exact ⟨limit, Option.some.inj (told.symm.trans told')⟩
  · rintro ⟨limit, rfl⟩
    exact ⟨limit, s, rests.record, told⟩

theorem Standing.Rests.left? (rests : st.Rests s result) : st.left? = Account.ofResult result := by
  simp [Standing.left?, rests.record, rests.returned]

theorem Standing.Rests.ran? (rests : st.Rests s result) :
    st.ran? = s.outcomes.head?.map fun outcome => Account.ofSuccess (succeeded outcome) := by
  simp [Standing.ran?, Standing.uncounted, rests.record, rests.running]

/-- Only a driver that timed out is counted as that. -/
theorem Standing.timedOut_of_mem (entered : Account.timedOut ∈ st.accounts) : st.TimedOut := by
  rw [Bridge.mem_accounts] at entered
  obtain ⟨-, made⟩ | ran | left := entered
  · cases made
  · obtain ⟨success, counted⟩ := Bridge.ofSuccess_of_ran? ran
    cases success <;> cases counted
  · obtain ⟨s, record, left⟩ := Option.bind_eq_some_iff.mp left
    split at left
    · next result returned =>
      obtain ⟨limit, rfl⟩ := Account.ofResult_eq_timedOut left
      exact ⟨limit, s, record, by rw [returned]; rfl⟩
    · cases left

/-- A driver whose call is over is counted if it timed out. -/
theorem Standing.Rests.mem_timedOut_iff (rests : st.Rests s result) :
    Account.timedOut ∈ st.accounts ↔ st.TimedOut := by
  refine ⟨timedOut_of_mem, fun late => ?_⟩
  obtain ⟨limit, rfl⟩ := rests.timedOut_iff.mp late
  exact Bridge.mem_accounts.mpr (.inr (.inr rests.left?))

/-- A submission at rest is closed if its function was applied, or if its driver was refused or told
that its unit was abandoned. -/
theorem Standing.Rests.closed_iff (rests : st.Rests s result) :
    st.Closed ↔ s.outcomes ≠ [] ∨ result = .error .shutDown ∨ result = .error .abandoned := by
  constructor
  · rintro ⟨account, entered, closing⟩
    rw [Bridge.mem_accounts] at entered
    obtain ⟨-, rfl⟩ | ran | left := entered
    · simp [Account.Closing] at closing
    · exact .inl (ne_nil_of_ran? rests.record ran)
    · rw [rests.left?] at left
      cases result with
      | ok value => cases left
      | error failure => cases failure <;> cases left <;> simp [Account.Closing] at closing ⊢
  · rintro (applied | rfl | rfl)
    · obtain ⟨outcome, rest, outcomes⟩ := List.exists_cons_of_ne_nil applied
      have ran := rests.ran?
      rw [outcomes, List.head?_cons, Option.map_some] at ran
      exact ⟨_, Bridge.mem_accounts.mpr (.inr (.inl ran)), Account.ofSuccess_closing _⟩
    · exact ⟨.rejected, Bridge.mem_accounts.mpr (.inr (.inr rests.left?)), by
        simp [Account.Closing]⟩
    · exact ⟨.abandoned, Bridge.mem_accounts.mpr (.inr (.inr rests.left?)), by
        simp [Account.Closing]⟩

/-- The handoff of a submission at rest was completed, unless its driver was refused. -/
theorem Sound.handled_of_rests (sound : Sound timeout st) (rests : st.Rests s result)
    (accepted : result ≠ .error .shutDown) : st.Handled := by
  by_contra unhandled
  have entered : st.Entered := by
    refine ⟨s, rests.record, ?_, ?_⟩
    · simp [rests.returned]
    · simpa [rests.returned, Caller.result?] using accepted
  obtain ⟨one, -⟩ | ⟨-, -, -, outcome, running | running⟩ := sound.of_unhandled entered unhandled
  · have none := rests.unit
    omega
  · rw [rests.running] at running
    cases running
  · rw [rests.running] at running
    cases running

/-- A submission at rest is closed, unless its unit was lost and its driver timed out. -/
theorem Sound.closed_iff_of_rests (sound : Sound timeout st) (rests : st.Rests s result) :
    st.Closed ↔ ¬ (st.Lost ∧ st.TimedOut) := by
  have told : s.caller.result? = some result := by rw [rests.returned]; rfl
  rw [rests.closed_iff, rests.timedOut_iff]
  constructor
  · rintro closed ⟨⟨s', record, -, lost⟩, limit, rfl⟩
    obtain rfl := Option.some.inj (record.symm.trans rests.record)
    have ending : Ending s'.outcomes .abandoned st.running := sound.ending record lost
    rcases closed with applied | refused | abandoned
    · exact applied (ending.eq_nil_of_abandoned rfl)
    · cases refused
    · cases abandoned
  · intro kept
    by_contra unclosed
    push Not at unclosed
    obtain ⟨unapplied, accepted, unabandoned⟩ := unclosed
    obtain ⟨-, -, -, s', completion, record, ending, filled⟩ :=
      sound.of_handled (sound.handled_of_rests rests accepted)
    obtain rfl := Option.some.inj (record.symm.trans rests.record)
    obtain rfl := ending.eq_abandoned_of_nil unapplied
    -- The handoff was abandoned and the driver does not know, so it can only have timed out.
    rcases filled with slot | told'
    · obtain ⟨rfl, -⟩ | limited | ⟨completion, rfl⟩ := sound.result_cases rests.record told
      · exact accepted rfl
      · refine kept ⟨⟨s', record, ?_, .inl slot⟩, limited⟩
        rw [told]
        exact fun same => accepted (Option.some.inj same)
      · have ending := sound.ending record (.inr told)
        obtain rfl := ending.eq_abandoned_of_nil unapplied
        exact unabandoned rfl
    · exact unabandoned (Option.some.inj (told.symm.trans told'))

/-- A driver that timed out did not keep the function from being applied if the submission is
closed. -/
theorem Standing.Rests.closed_iff_of_timedOut (rests : st.Rests s result) (late : st.TimedOut) :
    st.Closed ↔ s.outcomes ≠ [] := by
  obtain ⟨limit, rfl⟩ := rests.timedOut_iff.mp late
  rw [rests.closed_iff]
  simp

end Stages

namespace Bridge

variable {settings : BridgeSettings} {past : List (Moment (Bridge π ω ρ) (Move π ω ρ))}
  {now : Bridge π ω ρ} {key : Nat} {account other : Account}

/-! ### Timing out, and what comes of it -/

/-- Whether the unit of a submission was destroyed in a moment, after its driver had timed out. -/
def Forsaken (key : Nat) (moment : Moment (Bridge π ω ρ) (Move π ω ρ)) : Prop :=
  Destroyed key moment ∧ (moment.before.standing key).TimedOut

/-- The submissions whose units were destroyed after their drivers had timed out. -/
def forsaken (past : List (Moment (Bridge π ω ρ) (Move π ω ρ))) : Set Nat :=
  {key | ∃ moment ∈ past, Forsaken key moment}

/-- The submissions whose drivers timed out and whose functions were applied all the same. -/
def overdue (past : List (Moment (Bridge π ω ρ) (Move π ω ρ))) : Set Nat :=
  {key | (∃ moment ∈ past, Expired key moment) ∧ invocations key past ≠ []}

/-- A driver has timed out if and only if its limit has passed at some time. -/
theorem timedOut_iff (reached : Reached settings past now) :
    (now.standing key).TimedOut ↔ ∃ moment ∈ past, Expired key moment := by
  constructor
  · rintro ⟨limit, told⟩
    exact (expired_of_tells reached told).2
  · rintro ⟨moment, member, expires, -⟩
    refine reached.lasts_of_mem (P := Standing.TimedOut) ?_ member ?_
    · rintro before move st' - change ⟨limit, told⟩
      exact ⟨limit, change.tells told⟩
    · intro st' sound change
      rw [expires] at change
      cases change with
      | aside other => exact absurd rfl other
      | expired record waiting empty limited => exact ⟨_, _, rfl, rfl⟩

variable {bridge : Bridge π ω ρ} {st st' : Standing π ω ρ} {move : Move π ω ρ}

/-- A driver times out when its limit passes while its slot is empty. -/
theorem Change.of_timedOut (change : Change bridge key st move st') (late : st'.TimedOut) :
    st.TimedOut ∨ move = .expire key ∧ ∃ s, st.submission = some s ∧ s.slot = none := by
  obtain ⟨limit, told⟩ := late
  obtain before | ⟨s, record, ⟨-, -, h⟩ | ⟨-, completion, -, h⟩ | ⟨limit', expires, empty, -, -⟩⟩ :=
    change.of_tells told
  · exact .inl ⟨limit, before⟩
  · cases h
  · cases completion <;> cases h
  · exact .inr ⟨expires, s, record, empty⟩

/-- A unit that is lost to a driver that timed out was destroyed after that. -/
theorem Change.of_forsaken (change : Change bridge key st move st')
    (sound : Sound bridge.timeout st) (lost : st'.Lost) (late : st'.TimedOut) :
    (st.Lost ∧ st.TimedOut) ∨ Destroyed key ⟨bridge, move⟩ ∧ st.TimedOut := by
  rcases change.of_timedOut late with before | ⟨rfl, s, record, empty⟩
  · rcases change.of_lost sound lost with lost | destroyed
    · exact .inl ⟨lost, before⟩
    · exact .inr ⟨destroyed, before⟩
  · -- A driver whose limit passes now has an empty slot, and has not been told of an abandonment.
    rcases change.of_lost sound lost with ⟨s', record', -, slot | told⟩ | destroyed
    · obtain rfl := Option.some.inj (record.symm.trans record')
      rw [empty] at slot
      cases slot
    · exact absurd (change.tells ⟨s', record', told⟩) late.not_tells
    · rcases destroyed with drops | ⟨⟨reception, offers⟩, -⟩
      · cases drops
      · cases offers

/-- The forsaken submissions are those whose units are lost and whose drivers timed out. -/
theorem mem_forsaken_iff (reached : Reached settings past now) :
    key ∈ forsaken past ↔ (now.standing key).Lost ∧ (now.standing key).TimedOut := by
  constructor
  · rintro ⟨moment, member, destroyed, limit, told⟩
    refine reached.lasts_of_mem (P := fun st => st.Lost ∧ st.TimedOut) ?_ member ?_
    · rintro before move st' sound change ⟨lost, limit, told⟩
      exact ⟨change.lost_lasts sound lost, limit, change.tells told⟩
    · intro st' sound change
      exact ⟨change.lost_of_destroyed sound destroyed, limit, change.tells told⟩
  · intro both
    refine reached.since (P := fun st => st.Lost ∧ st.TimedOut) ?_ ?_ both
    · rintro before move st' - sound change ⟨lost, late⟩
      exact change.of_forsaken sound lost late
    · rintro st ⟨⟨s, record, -⟩, -⟩
      simp [record]

/-! ### Sums -/

/-- Whether nobody is at work: all calls are over, and there is no unit in the queue, in the
dispatcher's hand, or with the host. -/
structure Quiet (bridge : Bridge π ω ρ) : Prop where
  returned : ∀ (key : Nat) s, bridge.submissions[key]? = some s →
    ∃ result, s.caller = .returned result
  queued : bridge.dispatcher.queue.pending = []
  inHand : bridge.dispatcher.hand = []
  held : bridge.held = []
  running : bridge.running = []

theorem Quiet.rests {s : Submission π ω ρ} (quiet : now.Quiet)
    (record : now.submissions[key]? = some s) : ∃ result, (now.standing key).Rests s result := by
  obtain ⟨result, returned⟩ := quiet.returned key s record
  exact ⟨result, record, returned, by simp [standing, quiet.queued, quiet.inHand, quiet.held],
    by simp [standing, quiet.running]⟩

/-- The submissions that are closed. -/
def closed (bridge : Bridge π ω ρ) : Finset Nat :=
  bridge.roll .completed ∪ bridge.roll .faulted ∪ bridge.roll .rejected ∪ bridge.roll .abandoned

theorem mem_closed : key ∈ now.closed ↔ (now.standing key).Closed := by
  simp only [closed, Finset.mem_union, mem_roll, Standing.Closed, Account.Closing]
  constructor
  · rintro (((entered | entered) | entered) | entered) <;> exact ⟨_, entered, by simp⟩
  · rintro ⟨account, entered, rfl | rfl | rfl | rfl⟩ <;> simp [entered]

theorem roll_subset (account : Account) : now.roll account ⊆ Finset.range now.submissions.size :=
  Finset.filter_subset _ _

theorem closed_subset : now.closed ⊆ Finset.range now.submissions.size := by
  unfold closed
  exact Finset.union_subset (Finset.union_subset (Finset.union_subset (roll_subset _)
    (roll_subset _)) (roll_subset _)) (roll_subset _)

/-- Every submission is on the roll of those that were made. -/
theorem roll_submitted : now.roll .submitted = Finset.range now.submissions.size := by
  refine Finset.filter_true_of_mem fun key member => ?_
  have within : key < now.submissions.size := Finset.mem_range.mp member
  have record : now.submissions[key]? = some now.submissions[key] := Array.getElem?_eq_getElem within
  exact mem_accounts.mpr (.inl ⟨by simp [standing, record], rfl⟩)

/-- Two accounts that close submissions have no submission in common. -/
theorem disjoint_roll (reached : Reached settings past now) (closing : account.Closing)
    (closing' : other.Closing) (distinct : account ≠ other) :
    Disjoint (now.roll account) (now.roll other) := by
  refine Finset.disjoint_left.mpr fun key entered entered' => distinct ?_
  rw [mem_roll] at entered entered'
  exact (sound_of_reached reached key).account_unique entered closing entered' closing'

/-- The counters of the accounts that close submissions count the closed submissions. -/
theorem card_closed (reached : Reached settings past now) :
    now.closed.card = now.metrics.completed + now.metrics.faulted + now.metrics.rejected +
      now.metrics.abandoned := by
  have completed := balance_eq_card reached .completed
  have faulted := balance_eq_card reached .faulted
  have rejected := balance_eq_card reached .rejected
  have abandoned := balance_eq_card reached .abandoned
  simp only [Metrics.balance] at completed faulted rejected abandoned
  rw [completed, faulted, rejected, abandoned]
  have apart : ∀ {account other : Account}, account.Closing → other.Closing → account ≠ other →
      Disjoint (now.roll account) (now.roll other) := disjoint_roll reached
  unfold closed
  rw [Finset.card_union_of_disjoint, Finset.card_union_of_disjoint, Finset.card_union_of_disjoint]
  · exact apart (by simp [Account.Closing]) (by simp [Account.Closing]) (by simp)
  · rw [Finset.disjoint_union_left]
    constructor <;> exact apart (by simp [Account.Closing]) (by simp [Account.Closing]) (by simp)
  · rw [Finset.disjoint_union_left, Finset.disjoint_union_left]
    refine ⟨⟨?_, ?_⟩, ?_⟩ <;>
      exact apart (by simp [Account.Closing]) (by simp [Account.Closing]) (by simp)

/-- When nobody is at work, the submissions that are not closed are the forsaken ones. -/
theorem forsaken_eq (reached : Reached settings past now) (quiet : now.Quiet) :
    forsaken past = ↑(Finset.range now.submissions.size \ now.closed) := by
  ext key
  rw [mem_forsaken_iff reached, Finset.mem_coe, Finset.mem_sdiff, Finset.mem_range, mem_closed]
  constructor
  · rintro ⟨lost, late⟩
    obtain ⟨s, record, -⟩ := id lost
    have within : key < now.submissions.size := (Array.getElem?_eq_some_iff.mp record).1
    obtain ⟨result, rests⟩ := quiet.rests record
    refine ⟨within, fun closed => ?_⟩
    exact ((sound_of_reached reached key).closed_iff_of_rests rests).mp closed ⟨lost, late⟩
  · rintro ⟨within, unclosed⟩
    obtain ⟨result, rests⟩ := quiet.rests (Array.getElem?_eq_getElem within)
    by_contra kept
    exact unclosed (((sound_of_reached reached key).closed_iff_of_rests rests).mpr kept)

/-- When nobody is at work, the overdue submissions are those that are closed and timed out. -/
theorem overdue_eq (reached : Reached settings past now) (quiet : now.Quiet) :
    overdue past = ↑(now.closed ∩ now.roll .timedOut) := by
  ext key
  rw [overdue, Set.mem_ofPred_eq, ← timedOut_iff reached, Finset.mem_coe, Finset.mem_inter,
    mem_closed, mem_roll]
  cases record : now.submissions[key]? with
  | none =>
    have absent : (now.standing key).submission = none := record
    simp [Standing.TimedOut, Standing.Tells, Standing.Closed, Standing.accounts_of_none absent,
      absent]
  | some s =>
    obtain ⟨result, rests⟩ := quiet.rests record
    have noted := (accounted_of_reached reached record).noted
    have applied : s.outcomes ≠ [] ↔ invocations key past ≠ [] := by
      rw [← List.reverse_ne_nil_iff, noted, ne_eq, ne_eq, List.map_eq_nil_iff]
    rw [rests.mem_timedOut_iff, ← applied, and_comm]
    exact and_congr_left fun late => (rests.closed_iff_of_timedOut late).symm

/-- When nobody is at work, every submission is closed or timed out. -/
theorem closed_union_timedOut (reached : Reached settings past now) (quiet : now.Quiet) :
    now.closed ∪ now.roll .timedOut = Finset.range now.submissions.size := by
  refine Finset.Subset.antisymm (Finset.union_subset closed_subset (roll_subset _)) ?_
  intro key within
  rw [Finset.mem_union, mem_closed, mem_roll]
  obtain ⟨result, rests⟩ := quiet.rests (Array.getElem?_eq_getElem (Finset.mem_range.mp within))
  by_contra neither
  push Not at neither
  obtain ⟨unclosed, intime⟩ := neither
  rw [(sound_of_reached reached key).closed_iff_of_rests rests, not_not] at unclosed
  exact intime (rests.mem_timedOut_iff.mpr unclosed.2)

/-- Without a limit nobody is counted as timed out. -/
theorem roll_timedOut_of_unlimited (reached : Reached settings past now)
    (unlimited : settings.timeout = none) : now.roll .timedOut = ∅ := by
  refine Finset.eq_empty_of_forall_notMem fun key entered => ?_
  rw [mem_roll] at entered
  obtain ⟨limit, told⟩ := Standing.timedOut_of_mem entered
  have limited := (expired_of_tells reached told).1
  rw [unlimited] at limited
  cases limited

/-- What the counters of a bridge add up to. -/
structure Conserved (settings : BridgeSettings) (past : List (Moment (Bridge π ω ρ) (Move π ω ρ)))
    (now : Bridge π ω ρ) : Prop where
  /-- All calls were counted. -/
  submitted : now.metrics.submitted = (past.filterMap submitted).length
  /-- No more submissions are closed than were made. -/
  bounded : now.metrics.completed + now.metrics.faulted + now.metrics.rejected +
    now.metrics.abandoned ≤ now.metrics.submitted
  /-- When nobody is at work, all submissions are closed or timed out. -/
  covered : now.Quiet → now.metrics.submitted ≤ now.metrics.completed + now.metrics.faulted +
    now.metrics.rejected + now.metrics.abandoned + now.metrics.timedOut
  /-- Those that are not closed are those that were destroyed after their drivers had timed out. -/
  balanced : now.Quiet → (forsaken past).Finite ∧
    now.metrics.submitted = now.metrics.completed + now.metrics.faulted + now.metrics.rejected +
      now.metrics.abandoned + (forsaken past).ncard
  /-- Their functions are never applied. -/
  unapplied : ∀ key ∈ forsaken past, NeverInvoked key past now
  /-- Those that are closed and timed out are those that were run although their drivers timed
  out. -/
  exceeded : now.Quiet → (overdue past).Finite ∧
    now.metrics.completed + now.metrics.faulted + now.metrics.rejected + now.metrics.abandoned +
      now.metrics.timedOut = now.metrics.submitted + (overdue past).ncard
  /-- Without a limit nobody times out, and when nobody is at work all submissions are closed. -/
  unlimited : settings.timeout = none → now.metrics.timedOut = 0 ∧
    (now.Quiet → now.metrics.submitted = now.metrics.completed + now.metrics.faulted +
      now.metrics.rejected + now.metrics.abandoned)
  /-- No counter exceeds the number of the calls. -/
  fits : ∀ account, now.metrics.balance account ≤ (past.filterMap Bridge.submitted).length

/-- The counters of a reachable bridge add up. -/
theorem conserved_of_reached (reached : Reached settings past now) : Conserved settings past now := by
  have made : (past.filterMap submitted).length = now.submissions.size := by
    rw [submitted_eq reached, List.length_map, Array.length_toList]
  have submitted : now.metrics.submitted = now.submissions.size := by
    have balance := balance_eq_card reached .submitted
    rwa [roll_submitted, Finset.card_range] at balance
  have timedOut : now.metrics.timedOut = (now.roll .timedOut).card :=
    balance_eq_card reached .timedOut
  have closed := card_closed reached
  have within : now.closed.card ≤ now.submissions.size := by
    have subset : now.closed ⊆ Finset.range now.submissions.size := closed_subset
    simpa using Finset.card_le_card subset
  have forsaken_card :
      now.Quiet → (forsaken past).ncard = now.submissions.size - now.closed.card := by
    intro quiet
    rw [forsaken_eq reached quiet, Set.ncard_coe_finset, Finset.card_sdiff_of_subset closed_subset,
      Finset.card_range]
  -- Those that are closed or timed out are all, and both are the overdue ones.
  have overdue_card : now.Quiet → now.closed.card + (now.roll .timedOut).card =
      now.submissions.size + (overdue past).ncard := by
    intro quiet
    rw [overdue_eq reached quiet, Set.ncard_coe_finset, ← Finset.card_union_add_card_inter,
      closed_union_timedOut reached quiet, Finset.card_range]
  refine ⟨submitted.trans made.symm, by omega, fun quiet => ?_, fun quiet => ⟨?_, ?_⟩,
    fun key member => ?_, fun quiet => ⟨?_, ?_⟩, fun unlimited => ?_, fun account => ?_⟩
  · have both := overdue_card quiet
    omega
  · rw [forsaken_eq reached quiet]
    exact Finset.finite_toSet _
  · have left := forsaken_card quiet
    omega
  · obtain ⟨⟨s, record, -, lost⟩, -⟩ := (mem_forsaken_iff reached).mp member
    exact neverInvoked_of_abandoned reached record lost
  · rw [overdue_eq reached quiet]
    exact Finset.finite_toSet _
  · have both := overdue_card quiet
    omega
  · have none : now.roll .timedOut = ∅ := roll_timedOut_of_unlimited reached unlimited
    have zero : now.metrics.timedOut = 0 := by rw [timedOut, none, Finset.card_empty]
    refine ⟨zero, fun quiet => ?_⟩
    have both := overdue_card quiet
    rw [none, Finset.card_empty] at both
    omega
  · rw [made, balance_eq_card reached account]
    simpa using Finset.card_le_card (roll_subset account)

/-- Of two drivers that time out, one has a task that is run and one a task that is dropped. -/
theorem conserved_of_late_tasks : ∃ past, ∃ now : Bridge Nat Unit Nat,
    Reached { timeoutMillis := some 20 } past now ∧ now.Quiet ∧ now.metrics.submitted = 2 ∧
      now.metrics.completed = 1 ∧ now.metrics.timedOut = 2 ∧
      Conserved { timeoutMillis := some 20 } past now := by
  have usable : BridgeSettings.flaw? { timeoutMillis := some 20 } = none := by decide
  have reached := reached_of_moves usable (by decide)
    [.draw (⟨20, fun payload world => ⟨.ok (payload + 1), world, 0⟩⟩ : Callback Nat Unit Nat),
      .draw ⟨30, fun payload world => ⟨.ok (payload + 1), world, 0⟩⟩, .push 0, .push 1, .take,
      .offer .accepted true, .settle, .take, .offer .accepted true, .settle, .expire 0, .expire 1,
      .leave 0, .leave 1, .begin 0 (), .advance 0 ⟨⟨0⟩, ⟨0⟩⟩, .advance 0 ⟨⟨0⟩, ⟨0⟩⟩,
      .advance 0 ⟨⟨0⟩, ⟨0⟩⟩, .drop 1]
  refine ⟨_, _, reached, ⟨?_, rfl, rfl, rfl, rfl⟩, rfl, rfl, rfl, conserved_of_reached reached⟩
  intro key s record
  match key with
  | 0 | 1 =>
    obtain rfl := Option.some.inj record
    exact ⟨_, rfl⟩
  | _ + 2 => cases record

end Bridge
end CallbackFerry
