import CallbackFerry.Proofs.Simulation.Crew

/-!
# How a campaign closes

A campaign closes in an order: the dispatcher is asked to stop only after all threads are through,
and the way into the loop is closed only after the dispatcher has stopped (`Closing`).  When all
threads are through no mission is left and all calls are over, so there is nobody whom the closed
queue could refuse, and nothing that the closed loop could refuse.  That is why every submission of
a campaign is safe (`safe_of_reached`).
-/

namespace CallbackFerry.Campaign

variable {campaign after : Campaign} {move : Move}

/-! ### The order of the end -/

/-- What a move is to the end of a campaign. -/
inductive Closes (campaign after : Campaign) : Prop
  /-- The totals are taken. -/
  | mustered (through : campaign.fleet.isThrough campaign.orders = true)
      (same : after = { campaign with totals := some campaign.fleet.totals })
  /-- The counters are taken. -/
  | snapshot (retired : campaign.bridge.dispatcher.phase = .retired)
      (same : after = { campaign with metrics := some campaign.bridge.metrics })
  /-- The way into the loop is closed. -/
  | closed (retired : campaign.bridge.dispatcher.phase = .retired)
      (same : after = { campaign with loop := campaign.loop.close })
  /-- Nothing. -/
  | aside (totals : after.totals = campaign.totals) (metrics : after.metrics = campaign.metrics)
      (closed : after.loop.closed = campaign.loop.closed)

theorem closes_cases (made : campaign.step move = some after) : Closes campaign after := by
  cases move with
  | muster =>
    obtain ⟨through, same⟩ := muster_eq_some made
    exact .mustered through same
  | snapshot =>
    obtain ⟨retired, same⟩ := snapshot_eq_some made
    exact .snapshot retired same
  | closeHost =>
    obtain ⟨retired, same⟩ := closeHost_eq_some made
    exact .closed retired same
  | launch thread chance =>
    obtain ⟨launched, fleet, -, rfl⟩ := launch_eq_some made
    exact .aside rfl rfl rfl
  | submit thread =>
    obtain ⟨mission, -, -, -, rfl⟩ := submit_eq_some made
    exact .aside rfl rfl rfl
  | land thread =>
    obtain ⟨mission, key, s, result, fleet, -, -, -, -, -, -, rfl⟩ := land_eq_some made
    exact .aside rfl rfl rfl
  | push | collect | expire | leave | take | settle | retire =>
    obtain ⟨bridge, -, rfl⟩ := Option.map_eq_some_iff.mp made
    exact .aside rfl rfl rfl
  | offer =>
    obtain ⟨ticket, bridge, -, ⟨loop, accepted, -, rfl⟩ | ⟨-, -, rfl⟩⟩ := offer_eq_some made
    · obtain ⟨-, rfl⟩ := HostLoop.schedule_eq_some accepted
      exact .aside rfl rfl rfl
    · exact .aside rfl rfl rfl
  | receive =>
    obtain ⟨loop, received, rfl⟩ := Option.map_eq_some_iff.mp made
    obtain ⟨-, task, rest, -, rfl⟩ := HostLoop.receive_eq_some received
    exact .aside rfl rfl rfl
  | begin =>
    obtain ⟨ticket, work, bridge, -, -, -, rfl⟩ := beginNext_eq_some made
    exact .aside rfl rfl rfl
  | advance timing =>
    obtain ⟨key, fault, bridge, -, -, rfl | ⟨loop, ran, rfl⟩⟩ := advance_eq_some made
    · exact .aside rfl rfl rfl
    · obtain ⟨-, task, rest, -, rfl⟩ := HostLoop.ran_eq_some ran
      exact .aside rfl rfl rfl
  | notice place =>
    obtain ⟨task, fault, loop, -, noticed, rfl⟩ := notice_eq_some made
    obtain ⟨-, task, fault, -, rfl⟩ := HostLoop.notice_eq_some noticed
    cases fault <;> exact .aside rfl rfl rfl
  | abort =>
    obtain ⟨-, rfl⟩ := abort_eq_some made
    exact .aside rfl rfl rfl
  | finish =>
    obtain ⟨loop, finished, rfl⟩ := Option.map_eq_some_iff.mp made
    obtain ⟨-, -, -, -, rfl⟩ := HostLoop.finish_eq_some finished
    exact .aside rfl rfl rfl

/-- What a move is to the dispatcher; it is asked to stop only when the totals are taken. -/
theorem dispatcher_cases (made : campaign.step move = some after) :
    after.bridge.dispatcher = campaign.bridge.dispatcher ∨
      ∃ operation, campaign.bridge.dispatcher.step operation = some after.bridge.dispatcher ∧
        (operation = .abort → campaign.totals.isSome) := by
  obtain ⟨follows, -⟩ := step_part made
  cases own : campaign.part move with
  | none =>
    rw [own] at follows
    exact .inl (congrArg Bridge.dispatcher follows)
  | some own' =>
    rw [own] at follows
    have frame := (Bridge.step_frame follows).1
    cases duty : campaign.bridge.duty own' with
    | none =>
      rw [duty] at frame
      exact .inl frame
    | some operation =>
      rw [duty] at frame
      refine .inr ⟨operation, frame, ?_⟩
      rintro rfl
      have aborts : own' = .abort := by
        cases own' with
        | push key => simp [Bridge.duty] at duty
        | abort => rfl
        | _ => cases duty
      subst aborts
      cases move with
      | abort => exact (abort_eq_some made).1
      | offer =>
        cases phase : campaign.bridge.dispatcher.phase with
        | offering ticket =>
          rw [part_offer phase] at own
          split at own <;> cases own
        | _ => simp [part, phase] at own
      | _ => simp [part] at own

/-- When all threads are through, nobody launches or lands anything. -/
theorem fleet_of_isThrough (through : campaign.fleet.isThrough campaign.orders = true)
    (crewed : Crewed campaign after) : after.fleet = campaign.fleet := by
  cases crewed with
  | launched made =>
    obtain ⟨fired, reported, -, -, left, ready, -⟩ := made.threads
    obtain ⟨_, _, same, enough⟩ := Fleet.le_of_isThrough through ready
    obtain ⟨rfl, rfl⟩ := DriverPhase.ready.inj same
    omega
  | submitted member unkeyed fleet => exact fleet
  | landed member keyed record returned made =>
    obtain ⟨fired, reported, flight, aloft, -⟩ := Fleet.land_eq_some made
    obtain ⟨_, _, ready, -⟩ := Fleet.le_of_isThrough through aloft
    cases ready
  | aside fleet => exact fleet

/-- The order in which a campaign closes. -/
structure Closing (campaign : Campaign) : Prop where
  /-- The totals are taken when all threads are through. -/
  mustered : ∀ totals, campaign.totals = some totals →
    campaign.fleet.isThrough campaign.orders = true ∧ totals = campaign.fleet.totals
  /-- The dispatcher is asked to stop when the totals are taken. -/
  aborted : campaign.bridge.dispatcher.queue.aborted = true → campaign.totals.isSome
  /-- The way into the loop is closed when the dispatcher has stopped. -/
  closed : campaign.loop.closed = true → campaign.bridge.dispatcher.phase = .retired

theorem Closing.step (closing : Closing campaign) (made : campaign.step move = some after)
    (crewed : Crewed campaign after) : Closing after := by
  have orders := (step_part made).2
  have closes := closes_cases made
  have retired : campaign.bridge.dispatcher.phase = .retired →
      after.bridge.dispatcher.phase = .retired := by
    intro retired
    rcases dispatcher_cases made with same | ⟨operation, made, -⟩
    · rwa [same]
    · exact (Dispatcher.retired_lasts (.next .start made) retired).1
  have totals : campaign.totals.isSome → after.totals.isSome := by
    intro taken
    cases closes with
    | mustered through same => rw [same]; rfl
    | snapshot retired same | closed retired same => rwa [same]
    | aside totals => rwa [totals]
  refine ⟨fun taken here => ?_, fun aborted => ?_, fun closed => ?_⟩
  · have through : campaign.fleet.isThrough campaign.orders = true ∧
        taken = campaign.fleet.totals := by
      cases closes with
      | mustered through same =>
        rw [same] at here
        exact ⟨through, (Option.some.inj here).symm⟩
      | snapshot retired same | closed retired same =>
        rw [same] at here
        exact closing.mustered taken here
      | aside totals =>
        rw [totals] at here
        exact closing.mustered taken here
    rw [fleet_of_isThrough through.1 crewed, orders]
    exact through
  · rcases dispatcher_cases made with same | ⟨operation, stepped, asked⟩
    · rw [same] at aborted
      exact totals (closing.aborted aborted)
    · by_cases aborts : operation = .abort
      · exact totals (asked aborts)
      · rw [Dispatcher.aborted_of_step stepped aborts] at aborted
        exact totals (closing.aborted aborted)
  · cases closes with
    | mustered through same | snapshot retired same =>
      rw [same] at closed ⊢
      exact closing.closed closed
    | closed stopped same =>
      rw [same]
      exact stopped
    | aside totals metrics same =>
      rw [same] at closed
      exact retired (closing.closed closed)

/-! ### Reachable campaigns -/

variable {settings : Settings} {past : List (Moment Campaign Move)} {now : Campaign} {key : Nat}

theorem closing_of_reached (usable : settings.flaw? = none) (reached : Reached settings past now) :
    Closing now := by
  refine reached.induction ?_ ?_
  · intro first started
    obtain ⟨bridge, begun, rfl⟩ := start_eq_some started
    obtain ⟨-, -, rfl⟩ := Bridge.start_eq_ok_iff.mp begun
    exact ⟨nofun, nofun, nofun⟩
  · intro earlier before move after reached made closing
    exact closing.step made (crewed_of_reached usable reached made)

/-- When the totals are taken, there is no mission left, and all calls are over. -/
theorem over_of_mustered (usable : settings.flaw? = none) (reached : Reached settings past now)
    (taken : now.totals.isSome) : now.missions = [] ∧
      ∀ key < now.bridge.calls.length, (now.bridge.standing key).Over := by
  obtain ⟨totals, here⟩ := Option.isSome_iff_exists.mp taken
  obtain ⟨through, -⟩ := (closing_of_reached usable reached).mustered totals here
  obtain ⟨manned, -⟩ := manned_of_reached usable reached
  -- A mission would be in the hands of a thread that waits.
  have none : now.missions = [] := by
    refine List.eq_nil_iff_forall_not_mem.mpr fun mission member => ?_
    obtain ⟨fired, reported, aloft⟩ := manned.aloft mission member
    obtain ⟨_, _, ready, -⟩ := Fleet.le_of_isThrough through aloft
    cases ready
  refine ⟨none, fun key within => ?_⟩
  rcases manned.crewed key within with isOver | ⟨mission, member, -⟩
  · exact isOver
  · rw [none] at member
    cases member

/-- The queue is closed only when the totals are taken. -/
theorem mustered_of_closed (usable : settings.flaw? = none) (reached : Reached settings past now)
    (closed : now.bridge.dispatcher.queue.closed = true) : now.totals.isSome := by
  have run := Bridge.dispatcher_run (bridge_reached reached).run
  exact (closing_of_reached usable reached).aborted (Dispatcher.drained_of_run run closed).1

theorem mustered_of_retired (usable : settings.flaw? = none) (reached : Reached settings past now)
    (retired : now.bridge.dispatcher.phase = .retired) : now.totals.isSome := by
  have run := Bridge.dispatcher_run (bridge_reached reached).run
  refine mustered_of_closed usable reached ?_
  rw [(Dispatcher.orderly_of_run run).closed, retired, Dispatcher.hasClosed]

/-- A moment of the bridge is a move of the campaign. -/
theorem of_mem_seen {moment : Moment (Bridge Flight (Host Device) Bool) (Bridge.Move _ _ _)}
    (reached : Reached settings past now)
    (member : moment ∈ past.filterMap (Moment.seen bridge part)) :
    ∃ earlier before move after, Reached settings earlier before ∧ before.step move = some after ∧
      before.part move = some moment.move ∧ moment.before = before.bridge := by
  obtain ⟨own, within, seen⟩ := List.mem_filterMap.mp member
  obtain ⟨earlier, rest, after, upTo, made, -⟩ := reached.of_mem within
  obtain ⟨move, part, rfl⟩ := Option.map_eq_some_iff.mp seen
  exact ⟨earlier, own.before, own.move, after, upTo, made, part, rfl⟩

/-- Nothing goes wrong with a submission of a campaign. -/
theorem safe_of_reached (patient : settings.Patient) (reached : Reached settings past now)
    (key : Nat) : (now.bridge.standing key).Safe := by
  have bridge := bridge_reached reached
  refine ⟨fun lost => ?_, fun refused => ?_, fun late => ?_⟩
  · -- A unit is destroyed only by a closed loop, which is offered nothing.
    obtain ⟨moment, member, destroyed⟩ := Bridge.destroyed_of_lost bridge lost
    obtain ⟨earlier, before, move, after, upTo, made, own, -⟩ := of_mem_seen reached member
    have destroys : (∃ key, moment.move = .drop key) ∨
        ∃ reception, moment.move = .offer reception false :=
      destroyed.imp (fun drops => ⟨key, drops⟩) And.left
    obtain ⟨closed, ticket, offering⟩ := of_part_destroys _ own destroys
    rw [(closing_of_reached patient.usable upTo).closed closed] at offering
    cases offering
  · -- A unit is refused only by a closed queue, when all calls are over.
    obtain ⟨moment, member, push, s, record, back⟩ := Bridge.refused_of_tells bridge refused
    obtain ⟨earlier, before, move, after, upTo, made, own, same⟩ := of_mem_seen reached member
    rw [same] at record back
    rw [push] at own
    have closed : before.bridge.dispatcher.queue.closed = true := (Queue.push_eq_error_iff.mp back).1
    have follows := (step_part made).1
    rw [own] at follows
    obtain ⟨s', record', drawn, -⟩ := Bridge.push_eq_some follows
    obtain rfl := Option.some.inj (record.symm.trans record')
    have within : key < before.bridge.calls.length := by
      rw [Bridge.length_calls]
      exact (Array.getElem?_eq_some_iff.mp record).1
    obtain ⟨s', result, record', returned⟩ := (over_of_mustered patient.usable upTo
      (mustered_of_closed patient.usable upTo closed)).2 key within
    obtain rfl := Option.some.inj (record.symm.trans record')
    rw [drawn] at returned
    cases returned
  · obtain ⟨limit, told⟩ := late
    have limited := (Bridge.expired_of_tells bridge told).1
    rw [BridgeSettings.timeout, patient.unlimited] at limited
    cases limited

end CallbackFerry.Campaign
