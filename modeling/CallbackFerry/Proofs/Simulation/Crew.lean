import CallbackFerry.Proofs.Bridge.Book
import CallbackFerry.Proofs.Drivers.Fleet
import CallbackFerry.Proofs.Settings.Validation
import CallbackFerry.Proofs.Simulation.Flights
import CallbackFerry.Proofs.Simulation.Moves
import Mathlib.Data.List.Perm.Basic

/-!
# The threads of a campaign

To the threads a move of a campaign is that somebody launches, submits or lands something, or it is
none of their business (`crew_cases`).

A campaign is `Manned` if the threads work steadily and every mission is in the hands of a thread of
its own that waits for it, so that every call that is not over belongs to a thread that waits.  All
that was launched is then counted twice, by what the fleet has drawn and by what became of it, and
`Numbered` says that both counts agree.
-/

namespace CallbackFerry

/-- Whether settings can be used, and drivers wait for ever. -/
structure Settings.Patient (settings : Settings) : Prop where
  usable : settings.flaw? = none
  unlimited : settings.bridge.timeoutMillis = none

theorem Settings.valid_of_flaw? {settings : Settings} (usable : settings.flaw? = none) :
    0 < settings.driver.threads ∧ settings.driver.unknownRatio.isProbability = true := by
  have usable := flaw?_eq_none_iff.mp usable
  exact ⟨usable.manned, Binary64.isProbability_iff.mpr usable.share⟩

/-- Whether the thread of a mission waits for what it has launched. -/
def Mission.Aloft (fleet : Fleet) (mission : Mission) : Prop :=
  ∃ fired reported, fleet.threads[mission.thread]? = some (.aloft fired reported mission.flight)

/-- What one thread does is no matter of the others. -/
theorem Mission.Aloft.set {fleet after : Fleet} {mission : Mission} {thread : Nat}
    {phase : DriverPhase} (aloft : mission.Aloft fleet) (other : thread ≠ mission.thread)
    (threads : after.threads = fleet.threads.set! thread phase) : mission.Aloft after := by
  obtain ⟨fired, reported, here⟩ := aloft
  refine ⟨fired, reported, ?_⟩
  rwa [threads, Array.set!_eq_setIfInBounds, Array.getElem?_setIfInBounds_ne other]

theorem Fleet.Launched.fits {orders : Orders} {fleet after : Fleet} {thread : Nat} {chance : Chance}
    {flight : Flight} (made : Launched orders fleet thread chance (some flight) after) :
    flight.Fits := by
  cases made with
  | event ready left undue due chosen => exact RandomEvent.length_le_of_fire chosen
  | _ => trivial

namespace Campaign

variable {campaign after : Campaign} {move : Move}

/-! ### What the threads do -/

/-- What a move is to the threads. -/
inductive Crewed (campaign after : Campaign) : Prop
  /-- A thread launches something. -/
  | launched {thread : Nat} {chance : Chance} {flight : Flight}
      (made : Fleet.Launched campaign.orders campaign.fleet thread chance (some flight) after.fleet)
      (missions : after.missions = ⟨thread, flight, none⟩ :: campaign.missions)
      (bridge : after.bridge = campaign.bridge)
  /-- A thread submits what it has launched. -/
  | submitted {mission : Mission} (member : mission ∈ campaign.missions)
      (unkeyed : mission.key = none) (fleet : after.fleet = campaign.fleet)
      (missions : after.missions =
        { mission with key := some campaign.bridge.submissions.size } ::
          campaign.missions.erase mission)
      (bridge : after.bridge = (campaign.bridge.draw mission.flight.callback).2)
  /-- A thread lands with the result of its call. -/
  | landed {mission : Mission} {key : Nat} {s : Submission Flight (Host Device) Bool}
      {result : Except Failure Bool} (member : mission ∈ campaign.missions)
      (keyed : mission.key = some key) (record : campaign.bridge.submissions[key]? = some s)
      (returned : s.caller = .returned result)
      (made : campaign.fleet.land mission.thread result = some after.fleet)
      (missions : after.missions = campaign.missions.erase mission)
      (bridge : after.bridge = campaign.bridge)
  /-- Somebody else does something. -/
  | aside (fleet : after.fleet = campaign.fleet) (missions : after.missions = campaign.missions)
      (bridge : after.bridge = campaign.bridge ∨ ∃ own, (∀ callback, own ≠ .draw callback) ∧
        campaign.bridge.step own = some after.bridge)

theorem crew_cases (valid : campaign.orders.settings.unknownRatio.isProbability = true)
    (made : campaign.step move = some after) : Crewed campaign after := by
  have follows := (step_part made).1
  -- Whoever does not submit anything may move the bridge, but draws no number.
  have behind (other : ∀ thread, move ≠ .submit thread) (fleet : after.fleet = campaign.fleet)
      (missions : after.missions = campaign.missions) : Crewed campaign after := by
    cases own : campaign.part move with
    | none =>
      rw [own] at follows
      exact .aside fleet missions (.inl follows)
    | some own' =>
      rw [own] at follows
      refine .aside fleet missions (.inr ⟨own', fun callback draws => ?_, follows⟩)
      exact part_ne_draw other callback (own.trans (congrArg some draws))
  cases move with
  | launch thread chance =>
    obtain ⟨launched, fleet, launches, rfl⟩ := launch_eq_some made
    have launched := Fleet.launch_cases launches
    obtain ⟨flight, rfl⟩ := launched.exists_flight valid
    exact .launched launched rfl rfl
  | submit thread =>
    obtain ⟨mission, member, unkeyed, -, rfl⟩ := submit_eq_some made
    exact .submitted member unkeyed rfl rfl rfl
  | land thread =>
    obtain ⟨mission, key, s, result, fleet, member, rfl, keyed, record, returned, landed, rfl⟩ :=
      land_eq_some made
    exact .landed member keyed record returned landed rfl rfl
  | push | collect | expire | leave | take | settle | retire =>
    obtain ⟨bridge, -, rfl⟩ := Option.map_eq_some_iff.mp made
    exact behind (by simp) rfl rfl
  | offer =>
    obtain ⟨ticket, bridge, -, ⟨loop, -, -, rfl⟩ | ⟨-, -, rfl⟩⟩ := offer_eq_some made <;>
      exact behind (by simp) rfl rfl
  | begin =>
    obtain ⟨ticket, work, bridge, -, -, -, rfl⟩ := beginNext_eq_some made
    exact behind (by simp) rfl rfl
  | advance timing =>
    obtain ⟨key, fault, bridge, -, -, rfl | ⟨loop, -, rfl⟩⟩ := advance_eq_some made <;>
      exact behind (by simp) rfl rfl
  | notice place =>
    obtain ⟨task, fault, loop, -, -, rfl⟩ := notice_eq_some made
    exact behind (by simp) rfl rfl
  | receive | finish =>
    obtain ⟨loop, -, rfl⟩ := Option.map_eq_some_iff.mp made
    exact behind (by simp) rfl rfl
  | muster =>
    obtain ⟨-, rfl⟩ := muster_eq_some made
    exact behind (by simp) rfl rfl
  | abort =>
    obtain ⟨-, rfl⟩ := abort_eq_some made
    exact behind (by simp) rfl rfl
  | snapshot =>
    obtain ⟨-, rfl⟩ := snapshot_eq_some made
    exact behind (by simp) rfl rfl
  | closeHost =>
    obtain ⟨-, rfl⟩ := closeHost_eq_some made
    exact behind (by simp) rfl rfl

/-- Whoever draws no number leaves the calls alone. -/
theorem calls_of_aside (bridge : after.bridge = campaign.bridge ∨ ∃ own,
    (∀ callback, own ≠ .draw callback) ∧ campaign.bridge.step own = some after.bridge) :
    after.bridge.calls = campaign.bridge.calls := by
  rcases bridge with same | ⟨own, undrawn, made⟩
  · rw [same]
  · exact Bridge.calls_of_step made undrawn

/-! ### Threads and missions -/

/-- Whether every mission is in the hands of a thread of its own that waits for it, and every call
that is not over belongs to a mission. -/
structure Manned (campaign : Campaign) : Prop where
  steady : Fleet.Steady campaign.orders campaign.fleet
  aloft : ∀ mission ∈ campaign.missions, mission.Aloft campaign.fleet
  apart : (campaign.missions.map Mission.thread).Nodup
  fits : ∀ mission ∈ campaign.missions, mission.flight.Fits
  keyed : ∀ mission ∈ campaign.missions, ∀ key, mission.key = some key →
    campaign.bridge.calls[key]? = some mission.flight.callback
  calls : ∀ callback ∈ campaign.bridge.calls, ∃ flight : Flight,
    flight.Fits ∧ callback = flight.callback
  crewed : ∀ key < campaign.bridge.calls.length, (campaign.bridge.standing key).Over ∨
    ∃ mission ∈ campaign.missions, mission.key = some key

theorem Manned.launched (manned : Manned campaign) {thread : Nat} {chance : Chance} {flight : Flight}
    (orders : after.orders = campaign.orders)
    (made : Fleet.Launched campaign.orders campaign.fleet thread chance (some flight) after.fleet)
    (missions : after.missions = ⟨thread, flight, none⟩ :: campaign.missions)
    (bridge : after.bridge = campaign.bridge) : Manned after := by
  obtain ⟨fired, reported, fired', reported', -, ready, threads⟩ := made.threads
  -- The thread was ready, so that no mission was in its hands.
  have free : ∀ mission ∈ campaign.missions, thread ≠ mission.thread := by
    rintro mission member rfl
    obtain ⟨_, _, aloft⟩ := manned.aloft mission member
    rw [ready] at aloft
    cases aloft
  have within : thread < campaign.fleet.threads.size := (Array.getElem?_eq_some_iff.mp ready).1
  have here : Mission.Aloft after.fleet ⟨thread, flight, none⟩ := by
    refine ⟨fired', reported', ?_⟩
    rw [threads, Array.set!_eq_setIfInBounds, Array.getElem?_setIfInBounds_self_of_lt within]
  refine ⟨?_, ?_, ?_, ?_, ?_, ?_, ?_⟩
  · rw [orders]
    exact manned.steady.launch made
  · rw [missions]
    refine List.forall_mem_cons.mpr ⟨here, fun mission member => ?_⟩
    exact (manned.aloft mission member).set (free mission member) threads
  · rw [missions, List.map_cons, List.nodup_cons]
    refine ⟨fun occupied => ?_, manned.apart⟩
    obtain ⟨mission, member, same⟩ := List.mem_map.mp occupied
    exact free mission member same.symm
  · rw [missions]
    exact List.forall_mem_cons.mpr ⟨made.fits, manned.fits⟩
  · rw [missions, bridge]
    exact List.forall_mem_cons.mpr ⟨fun key keyed => absurd keyed (by simp), manned.keyed⟩
  · rw [bridge]
    exact manned.calls
  · rw [missions, bridge]
    intro key within
    refine (manned.crewed key within).imp_right ?_
    rintro ⟨mission, member, keyed⟩
    exact ⟨mission, List.mem_cons_of_mem _ member, keyed⟩

theorem Manned.submitted (manned : Manned campaign) {mission : Mission}
    (orders : after.orders = campaign.orders) (member : mission ∈ campaign.missions)
    (unkeyed : mission.key = none) (fleet : after.fleet = campaign.fleet)
    (missions : after.missions = { mission with key := some campaign.bridge.submissions.size } ::
      campaign.missions.erase mission)
    (bridge : after.bridge = (campaign.bridge.draw mission.flight.callback).2) : Manned after := by
  have perm : campaign.missions.Perm (mission :: campaign.missions.erase mission) :=
    List.perm_cons_erase member
  have rest : ∀ other ∈ campaign.missions.erase mission, other ∈ campaign.missions :=
    fun other => List.mem_of_mem_erase
  have calls : after.bridge.calls = campaign.bridge.calls ++ [mission.flight.callback] := by
    rw [bridge, Bridge.calls_draw]
  have drawn : campaign.bridge.step (.draw mission.flight.callback) = some after.bridge := by
    rw [bridge]
    rfl
  refine ⟨?_, ?_, ?_, ?_, ?_, ?_, ?_⟩
  · rw [orders, fleet]
    exact manned.steady
  · rw [missions, fleet]
    exact List.forall_mem_cons.mpr ⟨manned.aloft mission member, fun other behind =>
      manned.aloft other (rest other behind)⟩
  · rw [missions]
    exact (perm.map Mission.thread).nodup_iff.mp manned.apart
  · rw [missions]
    exact List.forall_mem_cons.mpr ⟨manned.fits mission member, fun other behind =>
      manned.fits other (rest other behind)⟩
  · rw [missions, calls]
    refine List.forall_mem_cons.mpr ⟨fun key keyed => ?_, fun other behind key keyed => ?_⟩
    · obtain rfl := Option.some.inj keyed
      rw [← Bridge.length_calls, List.getElem?_concat_length]
    · have before := manned.keyed other (rest other behind) key keyed
      rw [List.getElem?_append_left (List.getElem?_eq_some_iff.mp before).1, before]
  · rw [calls]
    intro callback called
    rcases List.mem_append.mp called with before | last
    · exact manned.calls callback before
    · exact ⟨mission.flight, manned.fits mission member, List.mem_singleton.mp last⟩
  · rw [missions, calls, List.length_append, List.length_singleton]
    intro key within
    by_cases last : key = campaign.bridge.calls.length
    · refine .inr ⟨_, List.mem_cons_self, ?_⟩
      rw [last, Bridge.length_calls]
    · rcases manned.crewed key (by omega) with isOver | ⟨other, behind, keyed⟩
      · exact .inl ((Bridge.step_change drawn).stays_over isOver)
      · rcases List.mem_cons.mp (perm.mem_iff.mp behind) with rfl | behind
        · rw [unkeyed] at keyed
          cases keyed
        · exact .inr ⟨other, List.mem_cons_of_mem _ behind, keyed⟩

theorem Manned.landed (manned : Manned campaign) {mission : Mission} {key : Nat}
    {s : Submission Flight (Host Device) Bool} {result : Except Failure Bool}
    (orders : after.orders = campaign.orders) (member : mission ∈ campaign.missions)
    (keyed : mission.key = some key) (record : campaign.bridge.submissions[key]? = some s)
    (returned : s.caller = .returned result)
    (made : campaign.fleet.land mission.thread result = some after.fleet)
    (missions : after.missions = campaign.missions.erase mission)
    (bridge : after.bridge = campaign.bridge) : Manned after := by
  have perm : campaign.missions.Perm (mission :: campaign.missions.erase mission) :=
    List.perm_cons_erase member
  have rest : ∀ other ∈ campaign.missions.erase mission, other ∈ campaign.missions :=
    fun other => List.mem_of_mem_erase
  have apart := (perm.map Mission.thread).nodup_iff.mp manned.apart
  rw [List.map_cons, List.nodup_cons] at apart
  refine ⟨?_, ?_, ?_, ?_, ?_, ?_, ?_⟩
  · rw [orders]
    exact manned.steady.land made
  · rw [missions]
    intro other behind
    obtain ⟨fired, reported, flight, -, landed⟩ := Fleet.land_eq_some made
    have distinct : mission.thread ≠ other.thread := fun same =>
      apart.1 (same ▸ List.mem_map_of_mem behind)
    exact (manned.aloft other (rest other behind)).set distinct (congrArg Fleet.threads landed)
  · rw [missions]
    exact apart.2
  · rw [missions]
    exact fun other behind => manned.fits other (rest other behind)
  · rw [missions, bridge]
    exact fun other behind => manned.keyed other (rest other behind)
  · rw [bridge]
    exact manned.calls
  · rw [missions, bridge]
    intro place within
    rcases manned.crewed place within with isOver | ⟨other, behind, keyed'⟩
    · exact .inl isOver
    · -- The call of the mission that lands is over.
      rcases List.mem_cons.mp (perm.mem_iff.mp behind) with rfl | behind
      · obtain rfl := Option.some.inj (keyed.symm.trans keyed')
        exact .inl ⟨s, result, record, returned⟩
      · exact .inr ⟨other, behind, keyed'⟩

theorem Manned.step (manned : Manned campaign) (orders : after.orders = campaign.orders)
    (crewed : Crewed campaign after) : Manned after := by
  cases crewed with
  | launched made missions bridge => exact manned.launched orders made missions bridge
  | submitted member unkeyed fleet missions bridge =>
    exact manned.submitted orders member unkeyed fleet missions bridge
  | landed member keyed record returned made missions bridge =>
    exact manned.landed orders member keyed record returned made missions bridge
  | aside fleet missions bridge =>
    have calls : after.bridge.calls = campaign.bridge.calls := calls_of_aside bridge
    have staysOver : ∀ key, (campaign.bridge.standing key).Over →
        (after.bridge.standing key).Over := by
      intro key isOver
      rcases bridge with same | ⟨own, undrawn, made⟩
      · rwa [same]
      · exact (Bridge.step_change made).stays_over isOver
    refine ⟨?_, ?_, ?_, ?_, ?_, ?_, ?_⟩
    · rw [fleet, orders]
      exact manned.steady
    · rw [fleet, missions]
      exact manned.aloft
    · rw [missions]
      exact manned.apart
    · rw [missions]
      exact manned.fits
    · rw [missions, calls]
      exact manned.keyed
    · rw [calls]
      exact manned.calls
    · rw [missions, calls]
      intro key within
      exact (manned.crewed key within).imp_left (staysOver key)

/-! ### Counting flights -/

/-- How many flights with a fate were submitted. -/
def made (fate : Fate) (campaign : Campaign) : Nat :=
  campaign.bridge.calls.countP fun callback =>
    callback.payload.fate campaign.orders.opened = fate

/-- How many flights with a fate were launched. -/
def flown (fate : Fate) (campaign : Campaign) : Nat :=
  (campaign.missions.countP fun mission =>
    mission.key = none ∧ mission.flight.fate campaign.orders.opened = fate) + campaign.made fate

variable {fate : Fate}

theorem made_congr (orders : after.orders = campaign.orders)
    (calls : after.bridge.calls = campaign.bridge.calls) : after.made fate = campaign.made fate := by
  unfold made
  rw [orders, calls]

/-- A submission counts once. -/
theorem made_submitted {mission : Mission} (orders : after.orders = campaign.orders)
    (bridge : after.bridge = (campaign.bridge.draw mission.flight.callback).2) :
    after.made fate =
      campaign.made fate +
        if mission.flight.fate campaign.orders.opened = fate then 1 else 0 := by
  unfold made
  rw [orders, bridge, Bridge.calls_draw, List.countP_append, List.countP_singleton]
  by_cases own : mission.flight.fate campaign.orders.opened = fate <;> simp [own, Flight.callback]

/-- A flight that is launched counts once. -/
theorem flown_launched {thread : Nat} {flight : Flight} (orders : after.orders = campaign.orders)
    (missions : after.missions = ⟨thread, flight, none⟩ :: campaign.missions)
    (bridge : after.bridge = campaign.bridge) :
    after.flown fate =
      campaign.flown fate + if flight.fate campaign.orders.opened = fate then 1 else 0 := by
  have same : after.made fate = campaign.made fate := made_congr orders (by rw [bridge])
  unfold flown
  rw [same, orders, missions, List.countP_cons]
  simp only [true_and, decide_eq_true_eq]
  omega

/-- A flight counts as much before it is submitted as afterwards. -/
theorem flown_submitted {mission : Mission} (orders : after.orders = campaign.orders)
    (member : mission ∈ campaign.missions) (unkeyed : mission.key = none)
    (missions : after.missions = { mission with key := some campaign.bridge.submissions.size } ::
      campaign.missions.erase mission)
    (bridge : after.bridge = (campaign.bridge.draw mission.flight.callback).2) :
    after.flown fate = campaign.flown fate := by
  unfold flown
  rw [made_submitted orders bridge, orders, missions, (List.perm_cons_erase member).countP_eq,
    List.countP_cons, List.countP_cons]
  simp only [unkeyed, reduceCtorEq, false_and, decide_false, Bool.false_eq_true, if_false, true_and,
    decide_eq_true_eq]
  omega

/-- A flight that lands was counted when it was submitted. -/
theorem flown_landed {mission : Mission} {key : Nat} (orders : after.orders = campaign.orders)
    (member : mission ∈ campaign.missions) (keyed : mission.key = some key)
    (missions : after.missions = campaign.missions.erase mission)
    (bridge : after.bridge = campaign.bridge) : after.flown fate = campaign.flown fate := by
  have same : after.made fate = campaign.made fate := made_congr orders (by rw [bridge])
  unfold flown
  rw [same, orders, missions, (List.perm_cons_erase member).countP_eq, List.countP_cons]
  simp [keyed]

/-- Whether as many flights with each fate were launched as the fleet has drawn numbers for. -/
structure Numbered (campaign : Campaign) : Prop where
  numbers : campaign.flown .handled + campaign.flown .unhandled + campaign.flown .fault =
    campaign.fleet.sequence
  faults : campaign.flown .fault =
    campaign.fleet.sequence / campaign.orders.settings.faultEvery
  resets : campaign.flown .reset = if campaign.fleet.hasReported then 1 else 0

theorem Numbered.launched (numbered : Numbered campaign) {thread : Nat} {chance : Chance}
    {flight : Flight} (orders : after.orders = campaign.orders)
    (made : Fleet.Launched campaign.orders campaign.fleet thread chance (some flight) after.fleet)
    (missions : after.missions = ⟨thread, flight, none⟩ :: campaign.missions)
    (bridge : after.bridge = campaign.bridge) : Numbered after := by
  have flown : ∀ fate, after.flown fate = campaign.flown fate +
      if flight.fate campaign.orders.opened = fate then 1 else 0 :=
    fun fate => flown_launched orders missions bridge
  obtain ⟨numbers, faults, resets⟩ := numbered
  obtain ⟨rfl, sequence, before, reported⟩ | ⟨sequence, reported, kind⟩ := made.numbers
  · -- A reset takes no number.
    refine ⟨?_, ?_, ?_⟩
    · rw [flown, flown, flown, sequence]
      simpa [Flight.fate] using numbers
    · rw [flown, sequence, orders]
      simpa [Flight.fate] using faults
    · rw [flown, resets, before, reported]
      rfl
  · have resets : flight.fate campaign.orders.opened ≠ .reset →
        after.flown .reset = if after.fleet.hasReported then 1 else 0 := by
      intro other
      rw [flown, if_neg other, Nat.add_zero, resets, reported]
    -- A fault takes the place of an event, which is handled or not.
    split at kind
    · next due =>
      have fate : flight.fate campaign.orders.opened = .fault := by
        rw [kind]
        rfl
      refine ⟨?_, ?_, resets (by simp [fate])⟩
      · rw [flown, flown, flown, sequence, fate]
        simp only [reduceCtorEq, if_false, if_true]
        omega
      · rw [flown, sequence, orders, Fleet.succ_div_faultEvery, faults, fate, if_pos rfl, if_pos due]
    · next undue =>
      obtain ⟨event, rfl⟩ := kind
      have fate : (Flight.event event).fate campaign.orders.opened = .handled ∨
          (Flight.event event).fate campaign.orders.opened = .unhandled := Flight.fate_event event
      refine ⟨?_, ?_, resets ?_⟩
      · rw [flown, flown, flown, sequence]
        rcases fate with fate | fate <;> simp only [fate, reduceCtorEq, if_false, if_true] <;> omega
      · have unfaulty : (Flight.event event).fate campaign.orders.opened ≠ .fault := by
          rcases fate with fate | fate <;> simp [fate]
        rw [flown, sequence, orders, Fleet.succ_div_faultEvery, faults, if_neg undue, if_neg unfaulty]
      · rcases fate with fate | fate <;> simp [fate]

theorem Numbered.step (numbered : Numbered campaign) (orders : after.orders = campaign.orders)
    (crewed : Crewed campaign after) : Numbered after := by
  obtain ⟨numbers, faults, resets⟩ := id numbered
  cases crewed with
  | launched made missions bridge => exact numbered.launched orders made missions bridge
  | submitted member unkeyed fleet missions bridge =>
    have flown : ∀ fate, after.flown fate = campaign.flown fate := fun fate =>
      flown_submitted orders member unkeyed missions bridge
    constructor
    · rwa [flown, flown, flown, fleet]
    · rwa [flown, fleet, orders]
    · rwa [flown, fleet]
  | landed member keyed record returned made missions bridge =>
    have flown : ∀ fate, after.flown fate = campaign.flown fate := fun fate =>
      flown_landed orders member keyed missions bridge
    obtain ⟨sequence, reported⟩ := Fleet.land_numbers made
    constructor
    · rwa [flown, flown, flown, sequence]
    · rwa [flown, sequence, orders]
    · rwa [flown, reported]
  | aside fleet missions bridge =>
    have flown : ∀ fate, after.flown fate = campaign.flown fate := by
      intro fate
      unfold Campaign.flown
      rw [orders, missions, made_congr orders (calls_of_aside bridge)]
    constructor
    · rwa [flown, flown, flown, fleet]
    · rwa [flown, fleet, orders]
    · rwa [flown, fleet]

/-! ### Reachable campaigns -/

variable {settings : Settings} {past : List (Moment Campaign Move)} {now : Campaign}

theorem crewed_of_reached (usable : settings.flaw? = none) {earlier : List (Moment Campaign Move)}
    (reached : Reached settings earlier campaign) (made : campaign.step move = some after) :
    Crewed campaign after := by
  refine crew_cases ?_ made
  rw [orders_of_reached reached]
  exact (Settings.valid_of_flaw? usable).2

theorem manned_of_start {first : Campaign} (started : start settings = some first) :
    Manned first ∧ Numbered first := by
  obtain ⟨bridge, begun, rfl⟩ := start_eq_some started
  obtain ⟨-, -, rfl⟩ := Bridge.start_eq_ok_iff.mp begun
  constructor
  · exact ⟨Fleet.steady_ofSettings, nofun, .nil, nofun, nofun, nofun, nofun⟩
  · refine ⟨rfl, ?_, ?_⟩
    · show 0 = 0 / settings.driver.faultEvery
      rw [Nat.zero_div]
    · rw [fresh, Fleet.hasReported_ofSettings]
      rfl

/-- A reachable campaign is manned, and its flights are numbered. -/
theorem manned_of_reached (usable : settings.flaw? = none) (reached : Reached settings past now) :
    Manned now ∧ Numbered now := by
  refine reached.induction (P := fun campaign => Manned campaign ∧ Numbered campaign) ?_ ?_
  · exact fun first => manned_of_start
  · rintro earlier before move after reached made ⟨manned, numbered⟩
    have orders := (step_part made).2
    have crewed := crewed_of_reached usable reached made
    exact ⟨manned.step orders crewed, numbered.step orders crewed⟩

end Campaign
end CallbackFerry
