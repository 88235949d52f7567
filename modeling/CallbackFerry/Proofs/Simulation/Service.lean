import CallbackFerry.Proofs.Simulation.Crew

/-!
# The host of a campaign

To the host a move of a campaign is that its loop applies a function, is through with a task, or
notices that one has ended, or it is none of these and nothing that is counted changes
(`hosted_cases`).

A campaign is `Served` if the host serves the channels and every account of the flights that were
applied agrees with the book of the bridge, whoever keeps it: the device, the counter of misrouted
events, and the loop.
-/

namespace CallbackFerry.Campaign

variable {campaign after : Campaign} {move : Move}

/-! ### What the host does -/

/-- What a move is to the host. -/
inductive Hosted (campaign after : Campaign) : Prop
  /-- A function is applied in the host's world. -/
  | begun {ticket : Ticket} {work : Work (Host Device) Bool} (idle : campaign.body = none)
      (next : campaign.loop.next? = some ticket)
      (begun : campaign.bridge.begin ticket.key campaign.world = some (work, after.bridge))
      (loop : after.loop = campaign.loop) (world : after.world = work.world)
      (body : after.body = some (ticket.key, faultOf work.outcome))
  /-- The loop is through with the task that it was running. -/
  | ran {key : Nat} {fault : Option Fault} (running : campaign.body = some (key, fault))
      (ran : campaign.loop.ran fault = some after.loop) (world : after.world = campaign.world)
      (body : after.body = none) (bridge : campaign.bridge.Silent after.bridge)
  /-- The loop notices that a task has ended. -/
  | noticed {place : Nat} {task : Ticket} {fault : Option Fault}
      (ended : campaign.loop.ended[place]? = some (task, fault))
      (noticed : campaign.loop.notice place = some after.loop)
      (world : after.world =
        fault.elim campaign.world fun _ => campaign.world.remember Device.recordFault)
      (body : after.body = campaign.body) (bridge : campaign.bridge.Silent after.bridge)
  /-- Nothing that is counted changes. -/
  | aside (tallied : ∀ {run brokeOff}, campaign.loop.Tallied run brokeOff →
        after.loop.Tallied run brokeOff)
      (faults : after.loop.faults = campaign.loop.faults)
      (started : campaign.loop.started ≠ [] → after.loop.started ≠ [])
      (world : after.world = campaign.world) (body : after.body = campaign.body)
      (bridge : campaign.bridge.Silent after.bridge)

theorem hosted_cases (made : campaign.step move = some after) : Hosted campaign after := by
  have follows := (step_part made).1
  -- Whoever does not begin a task applies nothing.
  have silent (other : move ≠ .begin) : campaign.bridge.Silent after.bridge := by
    cases own : campaign.part move with
    | none =>
      rw [own] at follows
      rw [show after.bridge = campaign.bridge from follows]
      exact .refl
    | some own' =>
      rw [own] at follows
      refine Bridge.silent_of_step follows fun key world begins => ?_
      exact part_ne_begin other key world (own.trans (congrArg some begins))
  cases move with
  | begin =>
    obtain ⟨ticket, work, bridge, idle, next, begun, rfl⟩ := beginNext_eq_some made
    exact .begun idle next begun rfl rfl rfl
  | advance timing =>
    obtain ⟨key, fault, bridge, body, -, rfl | ⟨loop, ran, rfl⟩⟩ := advance_eq_some made
    · exact .aside id rfl id rfl rfl (silent (by simp))
    · exact .ran body ran rfl rfl (silent (by simp))
  | notice place =>
    obtain ⟨task, fault, loop, ended, noticed, rfl⟩ := notice_eq_some made
    exact .noticed ended noticed rfl rfl (silent (by simp))
  | offer =>
    obtain ⟨ticket, bridge, -, ⟨loop, accepted, -, rfl⟩ | ⟨-, -, rfl⟩⟩ := offer_eq_some made
    · obtain ⟨-, same⟩ := HostLoop.schedule_eq_some accepted
      refine .aside (fun tallied => tallied.schedule accepted) ?_ ?_ rfl rfl (silent (by simp))
      · rw [same]
      · rw [same]
        exact id
    · exact .aside id rfl id rfl rfl (silent (by simp))
  | receive =>
    obtain ⟨loop, received, rfl⟩ := Option.map_eq_some_iff.mp made
    obtain ⟨-, task, rest, -, same⟩ := HostLoop.receive_eq_some received
    refine .aside (fun tallied => tallied.receive received) ?_ ?_ rfl rfl (silent (by simp))
    · rw [same]
    · rw [same]
      simp
  | finish =>
    obtain ⟨loop, finished, rfl⟩ := Option.map_eq_some_iff.mp made
    obtain ⟨-, -, -, -, same⟩ := HostLoop.finish_eq_some finished
    refine .aside (fun tallied => tallied.finish finished) ?_ ?_ rfl rfl (silent (by simp))
    · rw [same]
    · rw [same]
      exact id
  | closeHost =>
    obtain ⟨-, rfl⟩ := closeHost_eq_some made
    exact .aside HostLoop.Tallied.close rfl id rfl rfl (silent (by simp))
  | launch thread chance =>
    obtain ⟨launched, fleet, -, rfl⟩ := launch_eq_some made
    exact .aside id rfl id rfl rfl (silent (by simp))
  | submit thread =>
    obtain ⟨mission, -, -, -, rfl⟩ := submit_eq_some made
    exact .aside id rfl id rfl rfl (silent (by simp))
  | land thread =>
    obtain ⟨mission, key, s, result, fleet, -, -, -, -, -, -, rfl⟩ := land_eq_some made
    exact .aside id rfl id rfl rfl (silent (by simp))
  | push | collect | expire | leave | take | settle | retire =>
    obtain ⟨bridge, -, rfl⟩ := Option.map_eq_some_iff.mp made
    exact .aside id rfl id rfl rfl (silent (by simp))
  | muster =>
    obtain ⟨-, rfl⟩ := muster_eq_some made
    exact .aside id rfl id rfl rfl (silent (by simp))
  | abort =>
    obtain ⟨-, rfl⟩ := abort_eq_some made
    exact .aside id rfl id rfl rfl (silent (by simp))
  | snapshot =>
    obtain ⟨-, rfl⟩ := snapshot_eq_some made
    exact .aside id rfl id rfl rfl (silent (by simp))

/-! ### Counting applications -/

/-- How many flights of these fates were applied. -/
def applied (fates : Fate → Bool) (campaign : Campaign) : Nat :=
  campaign.bridge.book.countP fun entry =>
    !entry.2.isEmpty && fates (entry.1.payload.fate campaign.orders.opened)

variable {fates : Fate → Bool} {fate : Fate}

theorem applied_silent (orders : after.orders = campaign.orders)
    (silent : campaign.bridge.Silent after.bridge) :
    after.applied fates = campaign.applied fates := by
  obtain ⟨called, book⟩ := silent.calls
  unfold applied
  rw [orders, book, List.countP_append, Nat.add_eq_left, List.countP_eq_zero]
  intro entry member
  obtain ⟨callback, -, rfl⟩ := List.mem_map.mp member
  simp

/-- A function that is applied counts once. -/
theorem applied_begun {earlier later : List (Callback Flight (Host Device) Bool × List _)}
    {callback : Callback Flight (Host Device) Bool} {outcome : Except Fault Bool}
    (orders : after.orders = campaign.orders)
    (before : campaign.bridge.book = earlier ++ (callback, []) :: later)
    (afterwards : after.bridge.book = earlier ++ (callback, [outcome]) :: later) :
    after.applied fates = campaign.applied fates +
      if fates (callback.payload.fate campaign.orders.opened) then 1 else 0 := by
  unfold applied
  rw [orders, before, afterwards, List.countP_append, List.countP_append, List.countP_cons,
    List.countP_cons]
  simp only [List.isEmpty_nil, List.isEmpty_cons, Bool.not_true, Bool.not_false, Bool.false_and,
    Bool.true_and, Bool.false_eq_true, if_false]
  omega

/-- No more flights are applied than were submitted. -/
theorem applied_le_made : campaign.applied (· = fate) ≤ campaign.made fate := by
  unfold applied made
  rw [← Bridge.map_fst_book, List.countP_map]
  refine List.countP_mono_left fun entry _ counted => ?_
  rw [Bool.and_eq_true] at counted
  exact counted.2

/-! ### What the accounts say -/

/-- Whether the host serves the channels, and what was applied shows in the book, in the device's
account, and in the counter of misrouted events. -/
structure Served (channels : List ChannelSettings) (campaign : Campaign) : Prop where
  opened : campaign.orders.opened = channels.map ChannelSettings.channel
  serves : Device.Serves Place.whole channels campaign.world
  /-- What was applied has come to what the open channels say. -/
  noted : ∀ entry ∈ campaign.bridge.book,
    entry.2 = [] ∨ entry.2 = [entry.1.payload.outcome campaign.orders.opened]
  resets : campaign.world.memory.resets = campaign.applied (· = .reset)
  total : campaign.world.memory.total = campaign.applied (· = .handled)
  misrouted : campaign.bridge.metrics.routingErrors = campaign.applied (· = .unhandled)
  faults : campaign.world.memory.faults = campaign.loop.faults

/-- Whether the loop has run all that was applied, but for the task that it is running. -/
structure Worked (campaign : Campaign) : Prop where
  tallied : ∃ run brokeOff, campaign.loop.Tallied run brokeOff ∧
    run + (if campaign.body.isSome then 1 else 0) = campaign.applied (fun _ => true) ∧
    brokeOff + (if (campaign.body.bind Prod.snd).isSome then 1 else 0) =
      campaign.applied (· = .fault)
  started : campaign.body.isSome → campaign.loop.started ≠ []

variable {channels : List ChannelSettings} {key : Nat} {work : Work (Host Device) Bool}
  {bridge : Bridge Flight (Host Device) Bool}

/-- On a host that serves the channels, what is applied is a flight, and it runs as its fate
says. -/
theorem Served.run_begun (served : Served channels campaign) (manned : Manned campaign)
    (once : campaign.flown .reset ≤ 1)
    (sound : Sound campaign.bridge.timeout (campaign.bridge.standing key))
    (begun : campaign.bridge.begin key campaign.world = some (work, bridge)) :
    ∃ (flight : Flight) (earlier later : _), Flight.Ran channels flight campaign.world work ∧
      campaign.bridge.book = earlier ++ (flight.callback, []) :: later ∧
      bridge.book = earlier ++ (flight.callback, [work.outcome]) :: later := by
  obtain ⟨earlier, callback, later, rfl, before, afterwards⟩ := Bridge.book_begin sound begun
  have called : callback ∈ campaign.bridge.calls := by
    rw [← Bridge.map_fst_book, before]
    simp
  obtain ⟨flight, fits, rfl⟩ := manned.calls callback called
  -- No more resets were counted than were launched, so that there is room for one more.
  have countable : campaign.world.memory.resets < Device.maxResets := by
    have applied : campaign.applied (· = .reset) ≤ campaign.made .reset := applied_le_made
    have made : campaign.made .reset ≤ campaign.flown .reset := Nat.le_add_left ..
    have resets := served.resets
    have room : 1 < Device.maxResets := by decide
    omega
  exact ⟨flight, earlier, later, Flight.run_ran served.serves fits countable, before, afterwards⟩

/-- What was noted stays noted when callbacks are submitted. -/
theorem Served.noted_silent (served : Served channels campaign)
    (silent : campaign.bridge.Silent after.bridge) : ∀ entry ∈ after.bridge.book,
      entry.2 = [] ∨ entry.2 = [entry.1.payload.outcome campaign.orders.opened] := by
  obtain ⟨called, book⟩ := silent.calls
  rw [book]
  intro entry member
  rcases List.mem_append.mp member with before | new
  · exact served.noted entry before
  · obtain ⟨callback, -, rfl⟩ := List.mem_map.mp new
    exact .inl rfl

theorem Served.step (served : Served channels campaign) (manned : Manned campaign)
    (once : campaign.flown .reset ≤ 1)
    (sound : ∀ key, Sound campaign.bridge.timeout (campaign.bridge.standing key))
    (orders : after.orders = campaign.orders) (hosted : Hosted campaign after) :
    Served channels after := by
  have opened : after.orders.opened = channels.map ChannelSettings.channel :=
    orders ▸ served.opened
  obtain ⟨-, serves, noted, resets, total, misrouted, faults⟩ := id served
  cases hosted with
  | begun idle next begun loop world body =>
    obtain ⟨flight, earlier, later, ran, before, afterwards⟩ :=
      served.run_begun manned once (sound _) begun
    have own : flight.callback.payload = flight := rfl
    have applied : ∀ fate, after.applied (· = fate) = campaign.applied (· = fate) +
        if flight.fate (channels.map ChannelSettings.channel) = fate then 1 else 0 := by
      intro fate
      rw [applied_begun orders before afterwards, served.opened, own]
      simp only [decide_eq_true_eq]
    obtain ⟨s, -, -, counted⟩ := Bridge.begin_work begun
    refine ⟨opened, world ▸ ran.serves, ?_, ?_, ?_, ?_, ?_⟩
    · rw [orders, served.opened, afterwards]
      rw [served.opened, before] at noted
      intro entry member
      rcases List.mem_append.mp member with early | late
      · exact noted entry (List.mem_append_left _ early)
      · rcases List.mem_cons.mp late with rfl | late
        · exact .inr (congrArg (fun outcome => [outcome]) ran.outcome)
        · exact noted entry (List.mem_append_right _ (List.mem_cons_of_mem _ late))
    · rw [world, ran.resets, resets, applied]
    · rw [world, ran.total, total, applied]
    · rw [counted, ran.misrouted, misrouted, applied]
    · rw [world, ran.faults, faults, loop]
  | ran running ran world body bridge =>
    obtain ⟨-, task, rest, -, loop⟩ := HostLoop.ran_eq_some ran
    refine ⟨opened, world ▸ serves, orders ▸ served.noted_silent bridge, ?_, ?_, ?_, ?_⟩
    · rw [world, resets, applied_silent orders bridge]
    · rw [world, total, applied_silent orders bridge]
    · rw [bridge.misrouted, misrouted, applied_silent orders bridge]
    · rw [world, faults, loop]
  | @noticed place task fault ended noticed world body bridge =>
    obtain ⟨-, task', fault', ended', loop⟩ := HostLoop.notice_eq_some noticed
    obtain ⟨rfl, rfl⟩ := Prod.mk.inj (Option.some.inj (ended.symm.trans ended'))
    refine ⟨opened, ?_, orders ▸ served.noted_silent bridge, ?_, ?_, ?_, ?_⟩
    · rw [world]
      cases fault with
      | none => exact serves
      | some cause => exact serves.recordFault
    · rw [applied_silent orders bridge, ← resets, world]
      cases fault <;> rfl
    · rw [applied_silent orders bridge, ← total, world]
      cases fault <;> rfl
    · rw [bridge.misrouted, misrouted, applied_silent orders bridge]
    · -- The device is told what the loop counts.
      rw [world, loop]
      cases fault with
      | none => exact faults
      | some cause => exact congrArg (· + 1) faults
  | aside tallied same started world body bridge =>
    refine ⟨opened, world ▸ serves, orders ▸ served.noted_silent bridge, ?_, ?_, ?_, ?_⟩
    · rw [world, resets, applied_silent orders bridge]
    · rw [world, total, applied_silent orders bridge]
    · rw [bridge.misrouted, misrouted, applied_silent orders bridge]
    · rw [world, faults, same]

theorem Worked.step (worked : Worked campaign) (served : Served channels campaign)
    (manned : Manned campaign) (once : campaign.flown .reset ≤ 1)
    (sound : ∀ key, Sound campaign.bridge.timeout (campaign.bridge.standing key))
    (orders : after.orders = campaign.orders) (hosted : Hosted campaign after) : Worked after := by
  obtain ⟨⟨run, brokeOff, tallied, all, broken⟩, started⟩ := worked
  cases hosted with
  | begun idle next begun loop world body =>
    obtain ⟨flight, earlier, later, ran, before, afterwards⟩ :=
      served.run_begun manned once (sound _) begun
    have own : flight.callback.payload = flight := rfl
    rw [idle] at all broken
    refine ⟨⟨run, brokeOff, loop ▸ tallied, ?_, ?_⟩, fun _ => ?_⟩
    · rw [applied_begun orders before afterwards, body, ← all]
      rfl
    · rw [applied_begun orders before afterwards, body, ← broken, own, served.opened, ran.outcome,
        Option.bind_some, Flight.isSome_faultOf_outcome]
      rfl
    · rw [loop]
      intro none
      have head := (HostLoop.next?_eq_some next).2
      rw [none] at head
      cases head
  | @ran key fault running ran world body bridge =>
    refine ⟨⟨run + 1, brokeOff + if fault.isSome then 1 else 0, tallied.ran ran, ?_, ?_⟩, ?_⟩
    · rw [applied_silent orders bridge, ← all, running, body]
      rfl
    · rw [applied_silent orders bridge, ← broken, running, body]
      rfl
    · simp [body]
  | noticed ended noticed world body bridge =>
    obtain ⟨-, task, fault, -, loop⟩ := HostLoop.notice_eq_some noticed
    refine ⟨⟨run, brokeOff, tallied.notice noticed, ?_, ?_⟩, ?_⟩
    · rw [applied_silent orders bridge, ← all, body]
    · rw [applied_silent orders bridge, ← broken, body]
    · rw [body, loop]
      cases fault <;> exact started
  | aside keeps faults begun world body bridge =>
    refine ⟨⟨run, brokeOff, keeps tallied, ?_, ?_⟩, ?_⟩
    · rw [applied_silent orders bridge, ← all, body]
    · rw [applied_silent orders bridge, ← broken, body]
    · rw [body]
      exact fun running => begun (started running)

/-- When the loop is over, it has run all that was applied and has given every fault to the hook. -/
theorem Worked.of_isOver (worked : Worked campaign) (isOver : campaign.loop.isOver = true) :
    campaign.loop.executed = campaign.applied (fun _ => true) ∧
      campaign.loop.faults = campaign.applied (· = .fault) ∧
        campaign.loop.hooked.length = campaign.loop.faults := by
  obtain ⟨⟨run, brokeOff, tallied, all, broken⟩, started⟩ := worked
  obtain ⟨-, -, idle, noticed⟩ := tallied.finished isOver
  have body : campaign.body = none := by
    by_contra busy
    exact started (Option.isSome_iff_ne_none.mpr busy) idle
  have executed := tallied.executed
  have faults := tallied.faults
  rw [idle, List.length_nil] at executed
  rw [HostLoop.unnoticed, noticed, List.countP_nil] at faults
  simp only [body, Option.bind_none, Option.isSome_none, Bool.false_eq_true, if_false] at all broken
  exact ⟨by omega, by omega, tallied.hooked⟩

/-! ### Reachable campaigns -/

variable {settings : Settings} {past : List (Moment Campaign Move)} {now : Campaign}

/-- No more than one reset is launched. -/
theorem flown_reset_le_one (numbered : Numbered campaign) : campaign.flown .reset ≤ 1 := by
  rw [numbered.resets]
  split <;> decide

theorem served_of_start {first : Campaign} (started : start settings = some first) :
    Served settings.channels first ∧ Worked first := by
  obtain ⟨bridge, begun, rfl⟩ := start_eq_some started
  obtain ⟨-, -, rfl⟩ := Bridge.start_eq_ok_iff.mp begun
  have serves : Device.Serves Place.whole settings.channels (Simulation.host settings.channels) :=
    Device.serves_installed rfl rfl rfl
  have memory : (fresh settings (Bridge.fresh settings.bridge)).world.memory =
      { channels := settings.channels } := (Prod.mk.inj (Device.view_openIn Place.whole _)).2
  constructor
  · refine ⟨rfl, serves, nofun, ?_, ?_, rfl, ?_⟩ <;> rw [memory] <;> rfl
  · exact ⟨⟨0, 0, ⟨rfl, rfl, rfl, nofun⟩, rfl, rfl⟩, nofun⟩

/-- The accounts of a reachable campaign agree with the book of its bridge. -/
theorem served_of_reached (usable : settings.flaw? = none) (reached : Reached settings past now) :
    Served settings.channels now ∧ Worked now := by
  refine reached.induction (P := fun campaign => Served settings.channels campaign ∧ Worked campaign)
    (fun first => served_of_start) ?_
  rintro earlier before move after reached made ⟨served, worked⟩
  obtain ⟨manned, numbered⟩ := manned_of_reached usable reached
  have once := flown_reset_le_one numbered
  have bridge := bridge_reached reached
  have sound : ∀ key, Sound before.bridge.timeout (before.bridge.standing key) := fun key =>
    Bridge.timeout_of_reached bridge ▸ Bridge.sound_of_reached bridge key
  have orders := (step_part made).2
  have hosted := hosted_cases made
  exact ⟨served.step manned once sound orders hosted,
    worked.step served manned once sound orders hosted⟩

end CallbackFerry.Campaign
