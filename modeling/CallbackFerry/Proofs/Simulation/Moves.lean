import CallbackFerry.Proofs.Bridge.History
import CallbackFerry.Proofs.HostLoop
import CallbackFerry.Simulation.Campaign

/-!
# What the moves of a campaign do

For each move of a campaign that is put together from moves of its parts there is one lemma that
says when it is possible and what campaign it leads to.

To the bridge a move of a campaign is one of its own, its `part`, or nothing at all (`step_part`).
So every run of a campaign is a run of its bridge, and what is known about reachable bridges holds
of the bridges of campaigns (`bridge_reached`).
-/

namespace CallbackFerry.Campaign

variable {campaign after : Campaign} {thread place : Nat} {move : Move}

/-! ### What the moves do -/

/-- A thread launches something, or breaks off. -/
theorem launch_eq_some {chance : Chance} (made : campaign.launch thread chance = some after) :
    ∃ launched fleet,
      campaign.fleet.launch campaign.orders thread chance = some (launched, fleet) ∧
        after = { campaign with
          fleet := fleet
          missions := (launched.map fun flight => ⟨thread, flight, none⟩).toList ++
            campaign.missions } := by
  unfold launch at made
  split at made
  · next flight fleet launched => exact ⟨some flight, fleet, launched, (Option.some.inj made).symm⟩
  · next fleet launched => exact ⟨none, fleet, launched, (Option.some.inj made).symm⟩
  · cases made

/-- A thread submits a mission of its own that has not been submitted. -/
theorem submit_eq_some (made : campaign.submit thread = some after) :
    ∃ mission, mission ∈ campaign.missions ∧ mission.key = none ∧
      (campaign.missions.find? fun mission => mission.thread = thread ∧ mission.key = none) =
        some mission ∧
      after = { campaign with
        missions := { mission with key := some campaign.bridge.submissions.size } ::
          campaign.missions.erase mission
        bridge := (campaign.bridge.draw mission.flight.callback).2 } := by
  unfold submit at made
  split at made
  · next mission found =>
    have own : mission.thread = thread ∧ mission.key = none := by
      simpa using List.find?_some found
    exact ⟨mission, List.mem_of_find?_eq_some found, own.2, found, (Option.some.inj made).symm⟩
  · cases made

/-- A thread lands a mission of its own, with the result that its driver has returned with. -/
theorem land_eq_some (made : campaign.land thread = some after) :
    ∃ mission key s result fleet, mission ∈ campaign.missions ∧ mission.thread = thread ∧
      mission.key = some key ∧ campaign.bridge.submissions[key]? = some s ∧
      s.caller = .returned result ∧ campaign.fleet.land thread result = some fleet ∧
      after = { campaign with fleet := fleet, missions := campaign.missions.erase mission } := by
  unfold land at made
  split at made
  · next mission result landing =>
    obtain ⟨fleet, landed, rfl⟩ := Option.map_eq_some_iff.mp made
    unfold landing? at landing
    split at landing
    · next found own =>
      split at landing
      · next returned =>
        obtain ⟨rfl, rfl⟩ := Prod.mk.inj (Option.some.inj landing)
        obtain ⟨key, keyed, record⟩ := Option.bind_eq_some_iff.mp returned
        exact ⟨found, key, _, _, fleet, List.mem_of_find?_eq_some own, by
          simpa using List.find?_some own, keyed, record, rfl, landed, rfl⟩
      · cases landing
    · cases landing
  · cases made

/-- The loop accepts what it is offered, or it is closed, and what it is offered is lost. -/
theorem offer_eq_some (made : campaign.offer = some after) :
    ∃ ticket bridge, campaign.bridge.dispatcher.phase = .offering ticket ∧
      ((∃ loop, campaign.loop.schedule ticket = some loop ∧
          campaign.bridge.offer .accepted true = some bridge ∧
          after = { campaign with bridge := bridge, loop := loop }) ∨
        (campaign.loop.closed = true ∧
          campaign.bridge.offer
            (.refused (HostLoop.closedFailure (Callback.name ticket.id))) false = some bridge ∧
          after = campaign.withBridge bridge)) := by
  unfold offer at made
  split at made
  · next ticket offering =>
    split at made
    · next loop accepted =>
      obtain ⟨bridge, offered, rfl⟩ := Option.map_eq_some_iff.mp made
      exact ⟨ticket, bridge, offering, .inl ⟨loop, accepted, offered, rfl⟩⟩
    · next refused =>
      obtain ⟨bridge, offered, rfl⟩ := Option.map_eq_some_iff.mp made
      exact ⟨ticket, bridge, offering,
        .inr ⟨HostLoop.schedule_eq_none_iff.mp refused, offered, rfl⟩⟩
  · cases made

/-- The loop applies the function of the task that is next, in the host's world. -/
theorem beginNext_eq_some (made : campaign.beginNext = some after) :
    ∃ ticket work bridge, campaign.body = none ∧ campaign.loop.next? = some ticket ∧
      campaign.bridge.begin ticket.key campaign.world = some (work, bridge) ∧
      after = { campaign with
        bridge := bridge
        world := work.world
        body := some (ticket.key, faultOf work.outcome) } := by
  unfold beginNext at made
  split at made
  · next ticket idle next =>
    obtain ⟨⟨work, bridge⟩, begun, rfl⟩ := Option.map_eq_some_iff.mp made
    exact ⟨ticket, work, bridge, idle, next, begun, rfl⟩
  · cases made

/-- The task that the loop is running goes on, or it is through and leaves the loop's started
ones. -/
theorem advance_eq_some {timing : Timing} (made : campaign.advance timing = some after) :
    ∃ key fault bridge, campaign.body = some (key, fault) ∧
      campaign.bridge.advance key timing = some bridge ∧
      (after = campaign.withBridge bridge ∨
        ∃ loop, campaign.loop.ran fault = some loop ∧
          after = { campaign with bridge := bridge, loop := loop, body := none }) := by
  unfold advance at made
  split at made
  · next key fault body =>
    split at made
    · next bridge advanced =>
      refine ⟨key, fault, bridge, body, advanced, ?_⟩
      split at made
      · exact .inl (Option.some.inj made).symm
      · obtain ⟨loop, ran, rfl⟩ := Option.map_eq_some_iff.mp made
        exact .inr ⟨loop, ran, rfl⟩
    · cases made
  · cases made

/-- The loop notices that one of its tasks has ended, and tells the device about a fault. -/
theorem notice_eq_some (made : campaign.notice place = some after) :
    ∃ task fault loop, campaign.loop.ended[place]? = some (task, fault) ∧
      campaign.loop.notice place = some loop ∧
      after = { campaign with
        loop := loop
        world := fault.elim campaign.world fun _ =>
          campaign.world.remember Device.recordFault } := by
  unfold notice at made
  split at made
  · next task fault loop ended noticed =>
    exact ⟨task, fault, loop, ended, noticed, (Option.some.inj made).symm⟩
  · cases made

theorem muster_eq_some (made : campaign.muster = some after) :
    campaign.fleet.isThrough campaign.orders = true ∧
      after = { campaign with totals := some campaign.fleet.totals } := by
  unfold muster at made
  split at made
  · next through => exact ⟨through, (Option.some.inj made).symm⟩
  · cases made

theorem abort_eq_some (made : campaign.abort = some after) :
    campaign.totals.isSome ∧ after = campaign.withBridge campaign.bridge.abort := by
  unfold abort at made
  split at made
  · next taken => exact ⟨taken, (Option.some.inj made).symm⟩
  · cases made

theorem snapshot_eq_some (made : campaign.snapshot = some after) :
    campaign.bridge.dispatcher.phase = .retired ∧
      after = { campaign with metrics := some campaign.bridge.metrics } := by
  unfold snapshot at made
  split at made
  · next retired => exact ⟨retired, (Option.some.inj made).symm⟩
  · cases made

theorem closeHost_eq_some (made : campaign.closeHost = some after) :
    campaign.bridge.dispatcher.phase = .retired ∧
      after = { campaign with loop := campaign.loop.close } := by
  unfold closeHost at made
  split at made
  · next retired => exact ⟨retired, (Option.some.inj made).symm⟩
  · cases made

/-! ### The bridge -/

/-- What a move is to the bridge. -/
def part (campaign : Campaign) : Move → Option (Bridge.Move Flight (Host Device) Bool)
  | .submit thread =>
    (campaign.missions.find? fun mission => mission.thread = thread ∧ mission.key = none).map
      fun mission => .draw mission.flight.callback
  | .push key => some (.push key)
  | .collect key => some (.collect key)
  | .expire key => some (.expire key)
  | .leave key => some (.leave key)
  | .take => some .take
  | .offer =>
    match campaign.bridge.dispatcher.phase with
    | .offering ticket =>
      if campaign.loop.closed then
        some (.offer (.refused (HostLoop.closedFailure (Callback.name ticket.id))) false)
      else some (.offer .accepted true)
    | _ => none
  | .settle => some .settle
  | .retire => some .retire
  | .begin => campaign.loop.next?.map fun ticket => .begin ticket.key campaign.world
  | .advance timing => campaign.body.map fun (key, _) => .advance key timing
  | .abort => some .abort
  | _ => none

theorem part_offer {ticket : Ticket}
    (offering : campaign.bridge.dispatcher.phase = .offering ticket) :
    campaign.part .offer =
      if campaign.loop.closed then
        some (.offer (.refused (HostLoop.closedFailure (Callback.name ticket.id))) false)
      else some (.offer .accepted true) := by
  simp only [part, offering]

/-- Only a submission draws a number. -/
theorem part_ne_draw (other : ∀ thread, move ≠ .submit thread)
    (callback : Callback Flight (Host Device) Bool) : campaign.part move ≠ some (.draw callback) := by
  cases move with
  | submit thread => exact absurd rfl (other thread)
  | offer =>
    cases phase : campaign.bridge.dispatcher.phase with
    | offering ticket =>
      rw [part_offer phase]
      split <;> simp
    | _ => simp [part, phase]
  | _ => simp [part]

/-- Only the beginning of a task applies a function. -/
theorem part_ne_begin (other : move ≠ .begin) (key : Nat) (world : Host Device) :
    campaign.part move ≠ some (.begin key world) := by
  cases move with
  | begin => exact absurd rfl other
  | offer =>
    cases phase : campaign.bridge.dispatcher.phase with
    | offering ticket =>
      rw [part_offer phase]
      split <;> simp
    | _ => simp [part, phase]
  | _ => simp [part]

/-- A task is destroyed only when it is offered and the loop is closed. -/
theorem of_part_destroys (own : Bridge.Move Flight (Host Device) Bool)
    (part : campaign.part move = some own)
    (destroys : (∃ key, own = .drop key) ∨ ∃ reception, own = .offer reception false) :
    campaign.loop.closed = true ∧ ∃ ticket, campaign.bridge.dispatcher.phase = .offering ticket := by
  cases move with
  | offer =>
    cases phase : campaign.bridge.dispatcher.phase with
    | offering ticket =>
      rw [part_offer phase] at part
      split at part
      · next closed => exact ⟨closed, ticket, rfl⟩
      · obtain rfl := Option.some.inj part
        rcases destroys with ⟨key, drops⟩ | ⟨reception, offers⟩
        · cases drops
        · cases offers
    | _ => simp [Campaign.part, phase] at part
  | submit | begin | advance =>
    obtain ⟨_, -, rfl⟩ := Option.map_eq_some_iff.mp part
    simp at destroys
  | launch | land | receive | notice | muster | snapshot | closeHost | finish => cases part
  | _ =>
    obtain rfl := Option.some.inj part
    simp at destroys

/-- A move of a campaign is one of its bridge or leaves it alone, and nobody changes the orders. -/
theorem step_part (made : campaign.step move = some after) :
    Follows Bridge.step campaign.bridge (campaign.part move) after.bridge ∧
      after.orders = campaign.orders := by
  cases move with
  | launch thread chance =>
    obtain ⟨launched, fleet, -, rfl⟩ := launch_eq_some made
    exact ⟨rfl, rfl⟩
  | submit thread =>
    obtain ⟨mission, -, -, found, rfl⟩ := submit_eq_some made
    rw [part, found]
    exact ⟨rfl, rfl⟩
  | push | collect | expire | leave | take | settle | retire =>
    obtain ⟨bridge, moved, rfl⟩ := Option.map_eq_some_iff.mp made
    exact ⟨moved, rfl⟩
  | land thread =>
    obtain ⟨mission, key, s, result, fleet, -, -, -, -, -, -, rfl⟩ := land_eq_some made
    exact ⟨rfl, rfl⟩
  | offer =>
    obtain ⟨ticket, bridge, offering, ⟨loop, accepted, offered, rfl⟩ | ⟨closed, offered, rfl⟩⟩ :=
      offer_eq_some made
    · rw [part_offer offering, if_neg (by simp [(HostLoop.schedule_eq_some accepted).1])]
      exact ⟨offered, rfl⟩
    · rw [part_offer offering, if_pos closed]
      exact ⟨offered, rfl⟩
  | begin =>
    obtain ⟨ticket, work, bridge, -, next, begun, rfl⟩ := beginNext_eq_some made
    rw [part, next]
    refine ⟨?_, rfl⟩
    show (campaign.bridge.begin ticket.key campaign.world).map (·.2) = some bridge
    rw [begun, Option.map_some]
  | advance timing =>
    obtain ⟨key, fault, bridge, body, advanced, rfl | ⟨loop, -, rfl⟩⟩ := advance_eq_some made
    · rw [part, body]
      exact ⟨advanced, rfl⟩
    · rw [part, body]
      exact ⟨advanced, rfl⟩
  | notice place =>
    obtain ⟨task, fault, loop, -, -, rfl⟩ := notice_eq_some made
    exact ⟨rfl, rfl⟩
  | receive | finish =>
    obtain ⟨loop, -, rfl⟩ := Option.map_eq_some_iff.mp made
    exact ⟨rfl, rfl⟩
  | muster =>
    obtain ⟨-, rfl⟩ := muster_eq_some made
    exact ⟨rfl, rfl⟩
  | abort =>
    obtain ⟨-, rfl⟩ := abort_eq_some made
    exact ⟨rfl, rfl⟩
  | snapshot =>
    obtain ⟨-, rfl⟩ := snapshot_eq_some made
    exact ⟨rfl, rfl⟩
  | closeHost =>
    obtain ⟨-, rfl⟩ := closeHost_eq_some made
    exact ⟨rfl, rfl⟩

variable {settings : Settings} {past : List (Moment Campaign Move)} {now : Campaign}

/-- Whether a campaign is reachable: it began with these settings, and the past happened. -/
def Reached (settings : Settings) (past : List (Moment Campaign Move)) (now : Campaign) : Prop :=
  ∃ first, start settings = some first ∧ Run step first past now

theorem start_eq_some {first : Campaign} (started : start settings = some first) :
    ∃ bridge, Bridge.start settings.bridge = .ok (.ok bridge) ∧ first = fresh settings bridge := by
  unfold start at started
  split at started
  · next bridge begun => exact ⟨bridge, begun, (Option.some.inj started).symm⟩
  · cases started

/-- Any moves lead from a campaign whose bridge was started to a reachable one. -/
theorem reached_of_moves {bridge : Bridge Flight (Host Device) Bool}
    (begun : Bridge.start settings.bridge = .ok (.ok bridge)) (moves : List Move) :
    Reached settings (Run.moments step (fresh settings bridge) moves)
      (Run.replay step (fresh settings bridge) moves) :=
  ⟨fresh settings bridge, by simp only [start, begun], Run.of_moves step _ moves⟩

/-- A moment of the past was reachable. -/
theorem Reached.of_mem {moment : Moment Campaign Move} (reached : Reached settings past now)
    (member : moment ∈ past) : ∃ earlier rest after, Reached settings earlier moment.before ∧
      step moment.before moment.move = some after ∧ Run step after rest now := by
  obtain ⟨first, started, run⟩ := reached
  obtain ⟨earlier, rest, after, -, upTo, made, onward⟩ := run.of_mem member
  exact ⟨earlier, rest, after, ⟨first, started, upTo⟩, made, onward⟩

/-- What holds at the beginning and is kept up by every move of a reachable campaign holds of all
reachable campaigns. -/
theorem Reached.induction {P : Campaign → Prop} (reached : Reached settings past now)
    (first : ∀ first, start settings = some first → P first)
    (stepwise : ∀ earlier before move after, Reached settings earlier before →
      step before move = some after → P before → P after) : P now := by
  obtain ⟨begun, started, run⟩ := reached
  induction run with
  | start => exact first begun started
  | next run made ih => exact stepwise _ _ _ _ ⟨begun, started, run⟩ made ih

/-- Nobody changes the orders. -/
theorem orders_of_reached (reached : Reached settings past now) : now.orders = settings.orders := by
  refine reached.induction (P := fun campaign => campaign.orders = settings.orders) ?_ ?_
  · intro first started
    obtain ⟨bridge, -, rfl⟩ := start_eq_some started
    rfl
  · intro earlier before move after _ made orders
    exact (step_part made).2.trans orders

/-- The bridge of a reachable campaign is reachable. -/
theorem bridge_reached (reached : Reached settings past now) :
    Bridge.Reached settings.bridge (past.filterMap (Moment.seen bridge part)) now.bridge := by
  obtain ⟨first, started, run⟩ := reached
  obtain ⟨bridge, begun, rfl⟩ := start_eq_some started
  exact ⟨bridge, begun, run.seen fun _ _ _ made => (step_part made).1⟩

end CallbackFerry.Campaign
