import CallbackFerry.Proofs.Simulation.Chronicle
import CallbackFerry.Proofs.Simulation.Landings

/-!
# The accounts of a simulation agree

Five parties keep accounts of a campaign: the drivers, the bridge, the host's loop, the device, and
the hook to which the loop gives the faults.  When the threads are through, every flight that they
launched was submitted, applied and counted, whoever counts it, so each account is a count of the
same flights by their fates (`made_of_mustered`, `totals_of_mustered`, `applied_of_mustered`,
`balance_of_mustered`).  How many flights there are of which fate follows from the settings,
whatever the threads chose and in whatever order they and the host went on.

`reconciled_of_report` puts this together for a report.  Counters are numbers without a bound here;
by `fits_of_reached` no campaign counts beyond what its settings ask for.
-/

namespace CallbackFerry

/-! ### What the settings say -/

namespace Settings

variable (settings : Settings)

/-- How many sequence numbers the drivers draw. -/
def events : Nat :=
  settings.driver.threads * settings.driver.eventsPerThread

/-- How many resets they report. -/
def resets : Nat :=
  if 0 < settings.driver.eventsPerThread then 1 else 0

/-- How many of the numbers go to callbacks that break off: none if no interval is set. -/
def faults : Nat :=
  settings.events / settings.driver.faultEvery

end Settings

/-- Every flight has one fate. -/
theorem Fate.length_eq_countP {α : Type} (fate : α → Fate) (flights : List α) :
    flights.length = flights.countP (fate · = .handled) + flights.countP (fate · = .unhandled) +
      flights.countP (fate · = .fault) + flights.countP (fate · = .reset) := by
  induction flights with
  | nil => rfl
  | cons flight rest ih =>
    simp only [List.length_cons, List.countP_cons, decide_eq_true_eq]
    cases fate flight <;> simp only [reduceCtorEq, if_true, if_false] <;> omega

namespace Campaign

variable {settings : Settings} {past : List (Moment Campaign Move)} {now : Campaign}
  {metrics : Metrics} {report : RunReport}

/-- Every submission has one fate. -/
theorem length_calls_eq_made (campaign : Campaign) :
    campaign.bridge.calls.length =
      campaign.made .handled + campaign.made .unhandled + campaign.made .fault +
        campaign.made .reset :=
  Fate.length_eq_countP (fun callback : Callback Flight (Host Device) Bool =>
    callback.payload.fate campaign.orders.opened) campaign.bridge.calls

/-! ### When the threads are through -/

/-- All flights that the settings ask for were submitted. -/
theorem made_of_mustered (usable : settings.flaw? = none) (reached : Reached settings past now)
    (taken : now.totals.isSome) :
    now.made .handled + now.made .unhandled + now.made .fault = settings.events ∧
      now.made .fault = settings.faults ∧ now.made .reset = settings.resets := by
  obtain ⟨totals, here⟩ := Option.isSome_iff_exists.mp taken
  obtain ⟨through, -⟩ := (closing_of_reached usable reached).mustered totals here
  obtain ⟨manned, numbers, faults, resets⟩ := manned_of_reached usable reached
  have orders := orders_of_reached reached
  -- Nothing is left in the hands of the threads.
  have flown : ∀ fate, now.flown fate = now.made fate := by
    intro fate
    unfold Campaign.flown
    rw [(over_of_mustered usable reached taken).1, List.countP_nil, Nat.zero_add]
  have sequence : now.fleet.sequence = settings.events := by
    rw [manned.steady.sequence_eq through, orders]
    rfl
  have threads : 0 < now.orders.settings.threads := by
    rw [orders]
    exact (Settings.valid_of_flaw? usable).1
  rw [manned.steady.hasReported_eq through threads, orders] at resets
  rw [sequence] at numbers faults
  rw [orders] at faults
  simp only [flown] at numbers faults resets
  refine ⟨numbers, faults, resets.trans ?_⟩
  simp only [decide_eq_true_eq]
  rfl

theorem length_calls_of_mustered (usable : settings.flaw? = none)
    (reached : Reached settings past now) (taken : now.totals.isSome) :
    now.bridge.calls.length = settings.events + settings.resets := by
  obtain ⟨numbers, -, resets⟩ := made_of_mustered usable reached taken
  rw [now.length_calls_eq_made, numbers, resets]

/-- All flights that were submitted have landed, and are in the totals. -/
theorem totals_of_mustered (patient : settings.Patient) (reached : Reached settings past now)
    (taken : now.totals.isSome) {fate : Fate} (counted : fate ≠ .reset) :
    now.fleet.totals.of fate = now.made fate := by
  have landed := (totalled_of_reached patient reached).landed fate counted
  have none : now.pending fate = 0 := by
    unfold pending
    rw [(over_of_mustered patient.usable reached taken).1, List.countP_nil]
  omega

/-- When the threads are through, all calls are over. -/
theorem settled_of_mustered (patient : settings.Patient) (reached : Reached settings past now)
    (taken : now.totals.isSome) {key : Nat} {s : Submission Flight (Host Device) Bool}
    (record : now.bridge.submissions[key]? = some s) :
    ∃ result, s.caller = .returned result ∧
      Settled now.orders.opened (now.bridge.standing key) s result := by
  have within : key < now.bridge.calls.length := by
    rw [Bridge.length_calls]
    exact (Array.getElem?_eq_some_iff.mp record).1
  obtain ⟨s', result, record', returned⟩ :=
    (over_of_mustered patient.usable reached taken).2 key within
  obtain rfl := Option.some.inj (record.symm.trans record')
  exact ⟨result, returned, settled_of_returned patient reached record returned⟩

/-- An event on a channel that is open was handled once, and its driver was told so. -/
theorem handled_of_mustered (patient : settings.Patient) (reached : Reached settings past now)
    (taken : now.totals.isSome) {key : Nat} {s : Submission Flight (Host Device) Bool}
    {fired : ChannelEvent} (record : now.bridge.submissions[key]? = some s)
    (event : s.callback.payload = .event fired) (opened : fired.channel ∈ now.orders.opened) :
    s.outcomes = [.ok true] ∧ s.caller = .returned (.ok true) := by
  obtain ⟨result, returned, settled⟩ := settled_of_mustered patient reached taken record
  have outcome : s.callback.payload.outcome now.orders.opened = .ok true := by
    rw [event]
    exact congrArg Except.ok (decide_eq_true opened)
  refine ⟨settled.outcomes.trans (by rw [outcome]), returned.trans ?_⟩
  rw [settled.result, Flight.told, outcome]
  rfl

/-- All flights that were submitted were applied. -/
theorem applied_of_mustered (patient : settings.Patient) (reached : Reached settings past now)
    (taken : now.totals.isSome) (fates : Fate → Bool) :
    now.applied fates =
      now.bridge.calls.countP fun callback => fates (callback.payload.fate now.orders.opened) := by
  unfold applied
  rw [← Bridge.map_fst_book, List.countP_map]
  refine List.countP_congr fun entry member => ?_
  obtain ⟨key, written⟩ := List.getElem?_of_mem member
  obtain ⟨s, record, rfl⟩ := Bridge.getElem?_book_eq_some.mp written
  obtain ⟨result, -, settled⟩ := settled_of_mustered patient reached taken record
  simp [settled.outcomes]

/-- All flights that were submitted were counted as what they came to, and as nothing else. -/
theorem balance_of_mustered (patient : settings.Patient) (reached : Reached settings past now)
    (taken : now.totals.isSome) {account : Account} (further : account ≠ .submitted) :
    now.bridge.metrics.balance account = now.bridge.calls.countP fun callback =>
      account = Account.ofSuccess (decide (callback.payload.fate now.orders.opened ≠ .fault)) := by
  rw [Bridge.balance_eq_card (bridge_reached reached), ← Bridge.map_fst_book, List.countP_map]
  refine Bridge.card_roll account _ fun key entry written => ?_
  obtain ⟨s, record, rfl⟩ := Bridge.getElem?_book_eq_some.mp written
  obtain ⟨result, -, settled⟩ := settled_of_mustered patient reached taken record
  rw [Bridge.mem_accounts, settled.ran, settled.left, Flight.succeeded_outcome]
  simp only [Option.some.injEq, reduceCtorEq, or_false, further, and_false, false_or, Function.comp,
    decide_eq_true_eq]
  exact eq_comm

/-- What the counters of the bridge say about a campaign with these totals. -/
structure Counted (settings : Settings) (totals : DriverTotals) (metrics : Metrics) : Prop where
  submitted : metrics.submitted = settings.events + settings.resets
  completed : metrics.completed = settings.events + settings.resets - settings.faults
  faulted : metrics.faulted = settings.faults
  rejected : metrics.rejected = 0
  abandoned : metrics.abandoned = 0
  timedOut : metrics.timedOut = 0
  routingErrors : metrics.routingErrors = totals.unhandled

theorem counted_of_mustered (patient : settings.Patient) (reached : Reached settings past now)
    (taken : now.totals.isSome) : Counted settings now.fleet.totals now.bridge.metrics := by
  obtain ⟨numbers, faults, resets⟩ := made_of_mustered patient.usable reached taken
  have length := length_calls_of_mustered patient.usable reached taken
  have balance : ∀ account : Account, account ≠ .submitted → now.bridge.metrics.balance account =
      now.bridge.calls.countP fun callback =>
        account = Account.ofSuccess (decide (callback.payload.fate now.orders.opened ≠ .fault)) :=
    fun account => balance_of_mustered patient reached taken
  have faulted : now.bridge.metrics.faulted = now.made .fault := by
    refine (balance .faulted (by decide)).trans (List.countP_congr fun callback _ => ?_)
    by_cases fault : callback.payload.fate now.orders.opened = .fault <;>
      simp [fault, Account.ofSuccess]
  have completed : now.bridge.metrics.completed = now.bridge.calls.countP fun callback =>
      ¬ callback.payload.fate now.orders.opened = .fault := by
    refine (balance .completed (by decide)).trans (List.countP_congr fun callback _ => ?_)
    by_cases fault : callback.payload.fate now.orders.opened = .fault <;>
      simp [fault, Account.ofSuccess]
  have unharmed : ∀ account : Account, account ≠ .submitted → account ≠ .completed →
      account ≠ .faulted → now.bridge.metrics.balance account = 0 := by
    intro account further uncompleted unfaulted
    rw [balance account further, List.countP_eq_zero]
    intro callback _
    cases decide (callback.payload.fate now.orders.opened ≠ .fault) <;>
      simp [Account.ofSuccess, uncompleted, unfaulted]
  refine ⟨?_, ?_, ?_, ?_, ?_, ?_, ?_⟩
  · have submitted := Bridge.balance_eq_card (bridge_reached reached) .submitted
    rwa [Bridge.roll_submitted, Finset.card_range, ← Bridge.length_calls, length] at submitted
  · have parts := List.length_eq_countP_add_countP
      (fun callback : Callback Flight (Host Device) Bool =>
        callback.payload.fate now.orders.opened = .fault) (l := now.bridge.calls)
    change _ = now.made .fault + _ at parts
    simp only [decide_eq_true_eq] at parts
    rw [← completed] at parts
    omega
  · rw [faulted, faults]
  · exact unharmed .rejected (by decide) (by decide) (by decide)
  · exact unharmed .abandoned (by decide) (by decide) (by decide)
  · exact unharmed .timedOut (by decide) (by decide) (by decide)
  · rw [(served_of_reached patient.usable reached).1.misrouted,
      applied_of_mustered patient reached taken]
    have unhandled : now.fleet.totals.of .unhandled = now.made .unhandled :=
      totals_of_mustered patient reached taken (by decide)
    exact unhandled.symm

/-- The counters that were taken tell of the totals that were taken. -/
theorem counted_of_reached (patient : settings.Patient) (reached : Reached settings past now) :
    ∀ metrics, now.metrics = some metrics →
      now.totals.isSome ∧ Counted settings now.fleet.totals metrics := by
  refine reached.induction (P := fun campaign => ∀ metrics, campaign.metrics = some metrics →
    campaign.totals.isSome ∧ Counted settings campaign.fleet.totals metrics) ?_ ?_
  · intro first started metrics here
    obtain ⟨bridge, -, rfl⟩ := start_eq_some started
    cases here
  · intro earlier before move after reached made ih metrics here
    -- What was taken before stays, and the totals do not change any more.
    have lasts : before.metrics = some metrics → after.totals.isSome = before.totals.isSome →
        after.totals.isSome ∧ Counted settings after.fleet.totals metrics := by
      intro before' same
      obtain ⟨taken, counted⟩ := ih metrics before'
      obtain ⟨totals, sum⟩ := Option.isSome_iff_exists.mp taken
      obtain ⟨through, -⟩ := (closing_of_reached patient.usable reached).mustered totals sum
      rw [fleet_of_isThrough through (crewed_of_reached patient.usable reached made), same]
      exact ⟨taken, counted⟩
    cases closes_cases made with
    | mustered through same =>
      subst same
      obtain ⟨taken, counted⟩ := ih metrics here
      exact ⟨rfl, counted⟩
    | snapshot retired same =>
      subst same
      obtain rfl := Option.some.inj here
      have taken : before.totals.isSome := mustered_of_retired patient.usable reached retired
      have counted := counted_of_mustered patient reached taken
      exact ⟨taken, counted⟩
    | closed retired same =>
      subst same
      exact lasts here rfl
    | aside totals metrics =>
      exact lasts (metrics ▸ here) (by rw [totals])

/-! ### How far counters go -/

/-- Whether no counter of the drivers, the bridge and the device has gone beyond the number of what
the settings ask for.  The loop's own counter of what was executed only grows, and a report has its
last value. -/
structure Fits (settings : Settings) (campaign : Campaign) : Prop where
  sequence : campaign.fleet.sequence ≤ settings.events
  drivers : campaign.fleet.totals.handled + campaign.fleet.totals.unhandled +
    campaign.fleet.totals.faults + campaign.fleet.totals.rejected ≤ settings.events
  bridge : ∀ account, campaign.bridge.metrics.balance account ≤ settings.events + settings.resets
  routingErrors : campaign.bridge.metrics.routingErrors ≤ settings.events
  device : campaign.world.memory.total ≤ settings.events ∧
    campaign.world.memory.faults ≤ settings.events ∧
      campaign.world.memory.resets ≤ settings.resets

theorem made_le_flown (fate : Fate) : now.made fate ≤ now.flown fate :=
  Nat.le_add_left _ _

/-- No more flights are submitted than the settings ask for, at any time. -/
theorem made_le_of_reached (usable : settings.flaw? = none) (reached : Reached settings past now) :
    now.made .handled + now.made .unhandled + now.made .fault ≤ now.fleet.sequence ∧
      now.fleet.sequence ≤ settings.events ∧ now.made .reset ≤ settings.resets := by
  obtain ⟨manned, numbers, -, resets⟩ := manned_of_reached usable reached
  have orders := orders_of_reached reached
  have handled := now.made_le_flown .handled
  have unhandled := now.made_le_flown .unhandled
  have faults := now.made_le_flown .fault
  refine ⟨by omega, ?_, (now.made_le_flown .reset).trans (resets.trans_le ?_)⟩
  · have drawn := manned.steady.sequence_le
    rwa [orders] at drawn
  · split
    · next reported =>
      have some := manned.steady.some_of_hasReported reported
      rw [orders] at some
      exact (if_pos some).ge
    · exact Nat.zero_le _

/-- No counter ever goes beyond what the settings ask for. -/
theorem fits_of_reached (patient : settings.Patient) (reached : Reached settings past now) :
    Fits settings now := by
  obtain ⟨made, drawn, resets⟩ := made_le_of_reached patient.usable reached
  obtain ⟨served, worked⟩ := served_of_reached patient.usable reached
  obtain ⟨landed, rejected⟩ := totalled_of_reached patient reached
  have applied : ∀ fate, now.applied (· = fate) ≤ now.made fate := fun fate => applied_le_made
  refine ⟨drawn, ?_, fun account => ?_, ?_, ?_, ?_, ?_⟩
  · have handled := landed .handled (by decide)
    have unhandled := landed .unhandled (by decide)
    have faults := landed .fault (by decide)
    simp only [DriverTotals.of] at handled unhandled faults
    omega
  · have within : now.bridge.metrics.balance account ≤ now.bridge.calls.length := by
      rw [Bridge.balance_eq_card (bridge_reached reached), Bridge.length_calls]
      exact (Finset.card_le_card (Finset.filter_subset _ _)).trans (Finset.card_range _).le
    have parts := now.length_calls_eq_made
    omega
  · have unhandled := applied .unhandled
    rw [← served.misrouted] at unhandled
    omega
  · have handled := applied .handled
    rw [← served.total] at handled
    omega
  · obtain ⟨⟨run, brokeOff, tallied, -, broken⟩, -⟩ := worked
    have faults := tallied.faults
    have broke := applied .fault
    rw [served.faults]
    omega
  · have resets := applied .reset
    rw [← served.resets] at resets
    omega

/-! ### The report -/

/-- Whether all accounts of a campaign that has come to a report agree with its settings and with
each other. -/
structure Reconciled (settings : Settings) (now : Campaign) (report : RunReport) : Prop where
  /-- Everything was submitted. -/
  submitted : report.metrics.submitted = settings.events + settings.resets
  /-- Everything was run. -/
  executed : report.executed = settings.events + settings.resets
  completed : report.metrics.completed = settings.events + settings.resets - settings.faults
  /-- The bridge, the drivers, the loop and the device have seen all faults. -/
  faults : report.metrics.faulted = settings.faults ∧ report.drivers.faults = settings.faults ∧
    now.loop.faults = settings.faults ∧ report.device.faults = settings.faults
  /-- The hook was given all of them. -/
  hooked : now.loop.hooked.length = settings.faults
  /-- The other numbers went to events. -/
  events : report.drivers.handled + report.drivers.unhandled = settings.events - settings.faults
  /-- The events that were not handled had no handler. -/
  unhandled : report.drivers.unhandled = report.metrics.routingErrors
  /-- The events that were handled were delivered. -/
  handled : report.drivers.handled = report.device.total
  /-- Nothing was delivered on a channel that is not open. -/
  delivered : ∀ channel ∈ report.device.delivered.channels,
    channel ∈ settings.channels.map ChannelSettings.channel
  resets : report.device.resets = settings.resets
  /-- Nothing went wrong. -/
  unharmed : report.metrics.rejected = 0 ∧ report.metrics.abandoned = 0 ∧
    report.metrics.timedOut = 0 ∧ report.drivers.rejected = 0
  /-- Every event on a channel that is open was handled once, and its driver was told so. -/
  kept : ∀ (key : Nat) s fired, now.bridge.submissions[key]? = some s →
    s.callback.payload = .event fired →
      fired.channel ∈ settings.channels.map ChannelSettings.channel →
        s.outcomes = [.ok true] ∧ s.caller = .returned (.ok true)

theorem report?_eq_some (reported : now.report? = some report) :
    ∃ totals metrics, now.totals = some totals ∧ now.metrics = some metrics ∧
      now.loop.isOver = true ∧
      report =
        { drivers := totals
          metrics := metrics
          executed := now.loop.executed
          device := now.world.memory } := by
  unfold Campaign.report? at reported
  split at reported
  · next totals metrics taken counted =>
    split at reported
    · next isOver =>
      exact ⟨totals, metrics, taken, counted, isOver, (Option.some.inj reported).symm⟩
    · cases reported
  · cases reported

/-- When a campaign has come to a report, its accounts agree. -/
theorem reconciled_of_reached (usable : settings.flaw? = none)
    (unlimited : settings.bridge.timeoutMillis = none) (reached : Reached settings past now)
    (reported : now.report? = some report) : Reconciled settings now report := by
  have patient : settings.Patient := ⟨usable, unlimited⟩
  obtain ⟨totals, metrics, sum, taken, isOver, rfl⟩ := report?_eq_some reported
  have mustered : now.totals.isSome := by rw [sum]; rfl
  obtain ⟨-, counted⟩ := counted_of_reached patient reached metrics taken
  obtain ⟨through, rfl⟩ := (closing_of_reached usable reached).mustered totals sum
  obtain ⟨numbers, faults, resets⟩ := made_of_mustered usable reached mustered
  obtain ⟨served, worked⟩ := served_of_reached usable reached
  obtain ⟨executed, loop, hooked⟩ := worked.of_isOver isOver
  have rejected := (totalled_of_reached patient reached).rejected
  have total : ∀ fate, fate ≠ .reset → now.fleet.totals.of fate = now.made fate := fun fate =>
    totals_of_mustered patient reached mustered
  have applied : ∀ fate, now.applied (· = fate) = now.made fate := fun fate =>
    applied_of_mustered patient reached mustered _
  have all : now.applied (fun _ => true) = settings.events + settings.resets := by
    rw [applied_of_mustered patient reached mustered, List.countP_true]
    exact length_calls_of_mustered usable reached mustered
  have loop : now.loop.faults = settings.faults := by rw [loop, applied, faults]
  refine ⟨counted.submitted, executed.trans all, counted.completed,
    ⟨counted.faulted, (total .fault (by decide)).trans faults, loop, served.faults.trans loop⟩,
    hooked.trans loop, ?_, counted.routingErrors.symm, ?_, served.serves.delivered, ?_,
    ⟨counted.rejected, counted.abandoned, counted.timedOut, rejected⟩, ?_⟩
  · have handled := total .handled (by decide)
    have unhandled := total .unhandled (by decide)
    simp only [DriverTotals.of] at handled unhandled
    show now.fleet.totals.handled + now.fleet.totals.unhandled = _
    omega
  · rw [served.total, applied]
    exact total .handled (by decide)
  · rw [served.resets, applied, resets]
  · intro key s fired record event opened
    rw [← served.opened] at opened
    exact handled_of_mustered patient reached mustered record event opened

/-- Whatever is reported about a simulation whose drivers wait for ever, its accounts agree, in
whatever order the threads and the host went on and whatever they chose; and so they do in the order
in which the program runs it.  On the way no counter goes beyond what the settings ask for, so none
wraps around if that can be counted to. -/
theorem reconciled_of_report (usable : settings.flaw? = none)
    (unlimited : settings.bridge.timeoutMillis = none) :
    (∀ past now report, Reached settings past now → now.report? = some report →
      Reconciled settings now report) ∧
    (∀ chance report, (Simulation.run settings chance).1 = .complete report →
      ∃ past now, Reached settings past now ∧ now.report? = some report ∧
        Reconciled settings now report) ∧
    ∀ past now, Reached settings past now → Fits settings now := by
  refine ⟨fun past now report => reconciled_of_reached usable unlimited, ?_,
    fun past now => fits_of_reached ⟨usable, unlimited⟩⟩
  intro chance report complete
  obtain ⟨past, now, reached, reported⟩ := Simulation.reached_of_run complete
  exact ⟨past, now, reached, reported, reconciled_of_reached usable unlimited reached reported⟩

/-- An event that waits in the queue behind a reset is handled, and everybody counts a callback that
breaks off. -/
theorem reconciled_of_queued_reset : ∃ settings past now report,
    Settings.flaw? settings = none ∧ settings.bridge.timeoutMillis = none ∧
      Reached settings past now ∧ now.report? = some report ∧ report.executed = 3 ∧
      report.drivers.handled = 1 ∧ report.drivers.faults = 1 ∧ report.device.resets = 1 ∧
      Reconciled settings now report := by
  let half : Binary64 := .finite false 4503599627370496 (-53)
  let settings : Settings :=
    { driver := { threads := 2, eventsPerThread := 1, faultEvery := 2, unknownRatio := half }
      channels := [⟨3, .counting⟩] }
  have usable : settings.flaw? = none := by decide
  have begun : Bridge.start settings.bridge =
      .ok (.ok (.fresh settings.bridge : Bridge Flight (Host Device) Bool)) :=
    Bridge.start_eq_ok_iff.mpr ⟨by decide, by decide, rfl⟩
  -- Chance picks the open channel; the reset is launched first, and the event is queued behind it.
  let chance : Chance := ⟨9223372036854775808, 0, 0, 0, fun _ => 0, 0⟩
  let onward : Move := .advance ⟨⟨0⟩, ⟨0⟩⟩
  let task : List Move := [.begin, onward, onward, onward, .notice 0]
  let both : List Move := [.launch 0 chance, .submit 0, .launch 1 chance, .submit 1, .push 0, .push 1,
    .take, .offer, .settle, .take, .offer, .settle, .receive, .receive] ++ task ++ task ++
    [.collect 0, .leave 0, .land 0, .collect 1, .leave 1, .land 1]
  let last : List Move := [.launch 0 chance, .submit 0, .push 2, .take, .offer, .settle, .receive] ++
    task ++ [.collect 2, .leave 2, .land 0]
  let moves : List Move :=
    both ++ last ++ [.muster, .abort, .take, .retire, .snapshot, .closeHost, .finish]
  let now : Campaign := Run.replay step (fresh settings (.fresh settings.bridge)) moves
  have reached : Reached settings _ now := reached_of_moves begun moves
  have numbers : (now.report?.map fun report => (report.executed, report.drivers.handled,
      report.drivers.faults, report.device.resets)) = some (3, 1, 1, 1) := by decide +kernel
  obtain ⟨report, reported, numbers⟩ := Option.map_eq_some_iff.mp numbers
  simp only [Prod.mk.injEq] at numbers
  obtain ⟨executed, handled, faults, resets⟩ := numbers
  exact ⟨settings, _, now, report, usable, rfl, reached, reported, executed, handled, faults, resets,
    (reconciled_of_report usable rfl).1 _ now report reached reported⟩

end Campaign
end CallbackFerry
