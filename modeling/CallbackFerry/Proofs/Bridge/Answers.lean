import CallbackFerry.Bridge.Endpoint
import CallbackFerry.Proofs.Bridge.Execution
import CallbackFerry.Proofs.Host.Watch

/-!
# What drivers are answered about events

A driver that hands over an event gets a yes or a no.  It gets a yes in one case only: the event was
delivered, its handler said yes, and the driver had the result before its limit passed.  Everything
else that can become of the event is a no: no handler, too long a payload, a handler that breaks off
or says no, a unit that is refused or destroyed, and a limit that passes.

Of all these only one is counted as a routing error: that the channel has no handler.
`Host.screened` says when a delivery fails before any handler is called, and that it leaves
everything as it was; `answered_of_event` follows an event through the bridge.
-/

namespace CallbackFerry

variable {σ π ω ρ : Type}

/-! ### Deliveries without a handler -/

/-- The check refuses payloads that are too long. -/
theorem ChannelEvent.checked_eq_error_iff {event : ChannelEvent} {cause : FrameError} :
    checked event.channel event.code event.payload = .error cause ↔
      maxPayload < event.payload.length ∧
        cause = .payloadTooLarge event.payload.length maxPayload := by
  unfold checked checkPayload
  split <;> rename_i large <;> simp [large, Except.map, eq_comm]

/-- The check lets all other payloads pass. -/
theorem ChannelEvent.checked_eq_ok_iff {event event' : ChannelEvent} :
    checked event.channel event.code event.payload = .ok event' ↔
      event.payload.length ≤ maxPayload ∧ event' = event := by
  unfold checked checkPayload
  split <;> rename_i large
  · simp [large, Except.map]
  · simp only [Except.map, Except.ok.injEq, Nat.not_lt.mp large, true_and]
    exact eq_comm

namespace Host

open ChannelEvent

variable {event : ChannelEvent} {host : Host σ}

/-- What becomes of a delivery that ends before a handler is called. -/
structure Screened (room : Nat) (event : ChannelEvent) (host : Host σ) : Prop where
  /-- It fails for the channel if that one is not open, however long the payload is. -/
  unknown : (host.deliver (perform room) event).1 = .ok (.error (.unknownChannel event.channel)) ↔
    host.isOpen event.channel = false
  /-- It fails for the payload if that one is too long for an open channel. -/
  tooLarge : (host.deliver (perform room) event).1 =
      .ok (.error (.protocol (.payloadTooLarge event.payload.length maxPayload))) ↔
    host.isOpen event.channel = true ∧ maxPayload < event.payload.length
  /-- It fails in no other way. -/
  causes : ∀ cause, (host.deliver (perform room) event).1 = .ok (.error cause) →
    cause = .unknownChannel event.channel ∨
      cause = .protocol (.payloadTooLarge event.payload.length maxPayload)
  /-- A delivery that fails calls no handler, and leaves the host as it was. -/
  untouched : ∀ cause, (host.deliver (perform room) event).1 = .ok (.error cause) →
    (host.deliver (perform room) event).2 = host ∧
      (host.watch (room + 1) (.dispatch event)).1.incidents = []
  /-- It never fails for the payload of an event that passes the check. -/
  passed : ∀ event', ChannelEvent.checked event.channel event.code event.payload = .ok event' →
    event' = event ∧ ∀ cause, (host.deliver (perform room) event).1 ≠ .ok (.error (.protocol cause))
  /-- For one that does not pass, it fails on an open channel with the same cause. -/
  failed : ∀ cause, ChannelEvent.checked event.channel event.code event.payload = .error cause →
    cause = .payloadTooLarge event.payload.length maxPayload ∧
      (host.isOpen event.channel = true →
        (host.deliver (perform room) event).1 = .ok (.error (.protocol cause)))

/-- An open channel has an entry. -/
theorem exists_entry (opened : host.isOpen event.channel = true) :
    ∃ entry, host.routes.get? event.channel = some entry := by
  rw [isOpen, ChannelMap.contains_eq_isSome] at opened
  exact Option.isSome_iff_exists.mp opened

/-- A channel that is not open has no handler to call. -/
theorem deliver_of_closed (closed : host.isOpen event.channel = false) (perform : Performer σ)
    (watch : Watcher σ (Host σ)) :
    host.deliver perform event = (.ok (.error (.unknownChannel event.channel)), host) ∧
      (host.watchDelivery watch event).1.incidents = [] := by
  have absent : host.routes.get? event.channel = none := by
    rwa [isOpen, ChannelMap.contains_eq_isSome, Option.isSome_eq_false_iff,
      Option.isNone_iff_eq_none] at closed
  rw [deliver, watchDelivery, absent]
  exact ⟨rfl, rfl⟩

/-- On an open channel no handler is called for a payload that is too long. -/
theorem deliver_of_tooLarge (opened : host.isOpen event.channel = true)
    (large : maxPayload < event.payload.length) (perform : Performer σ)
    (watch : Watcher σ (Host σ)) :
    host.deliver perform event =
        (.ok (.error (.protocol (.payloadTooLarge event.payload.length maxPayload))), host) ∧
      (host.watchDelivery watch event).1.incidents = [] := by
  obtain ⟨entry, here⟩ := exists_entry opened
  have fails : checkPayload event.payload =
      .error (.payloadTooLarge event.payload.length maxPayload) := if_pos large
  simp only [deliver, watchDelivery, here, fails, and_self]

/-- On an open channel a payload that fits comes to its handler, which answers or breaks off. -/
theorem deliver_of_fits (opened : host.isOpen event.channel = true)
    (fits : event.payload.length ≤ maxPayload) (perform : Performer σ) (failure : Failure) :
    (host.deliver perform event).1 ≠ .ok (.error failure) := by
  obtain ⟨entry, here⟩ := exists_entry opened
  have passes : checkPayload event.payload = .ok () := if_neg (Nat.not_lt.mpr fits)
  simp only [deliver, here, passes]
  split <;> simp

/-- The three things that can become of a delivery. -/
theorem deliver_cases (event : ChannelEvent) (host : Host σ) (perform : Performer σ)
    (watch : Watcher σ (Host σ)) :
    (host.isOpen event.channel = false ∧
        host.deliver perform event = (.ok (.error (.unknownChannel event.channel)), host) ∧
        (host.watchDelivery watch event).1.incidents = []) ∨
      (host.isOpen event.channel = true ∧ maxPayload < event.payload.length ∧
        host.deliver perform event =
          (.ok (.error (.protocol (.payloadTooLarge event.payload.length maxPayload))), host) ∧
        (host.watchDelivery watch event).1.incidents = []) ∨
      (host.isOpen event.channel = true ∧ event.payload.length ≤ maxPayload ∧
        ∀ failure, (host.deliver perform event).1 ≠ .ok (.error failure)) := by
  cases opened : host.isOpen event.channel with
  | false => exact .inl ⟨rfl, deliver_of_closed opened perform watch⟩
  | true =>
    rcases Nat.lt_or_ge maxPayload event.payload.length with large | fits
    · exact .inr (.inl ⟨rfl, large, deliver_of_tooLarge opened large perform watch⟩)
    · exact .inr (.inr ⟨rfl, fits, deliver_of_fits opened fits perform⟩)

/-- A delivery that ends before a handler is called ends in one of these ways. -/
theorem screened (room : Nat) (event : ChannelEvent) (host : Host σ) :
    Screened room event host := by
  obtain ⟨closed, fails, silent⟩ | ⟨opened, large, fails, silent⟩ | ⟨opened, fits, reaches⟩ :=
    deliver_cases event host (perform room) (watch room)
  · constructor
    case unknown => simp [fails, closed]
    case tooLarge => simp [fails, closed]
    case causes => simp [fails]
    case untouched => exact fun _ _ => ⟨by rw [fails], silent⟩
    case passed => simp [checked_eq_ok_iff, fails]
    case failed => simp [checked_eq_error_iff, closed]
  · constructor
    case unknown => simp [fails, opened]
    case tooLarge => simp [fails, opened, large]
    case causes => simp [fails]
    case untouched => exact fun _ _ => ⟨by rw [fails], silent⟩
    case passed =>
      intro event' passes
      exact absurd (checked_eq_ok_iff.mp passes).1 (Nat.not_le.mpr large)
    case failed =>
      intro cause refused
      obtain ⟨-, rfl⟩ := checked_eq_error_iff.mp refused
      exact ⟨rfl, fun _ => by rw [fails]⟩
  · constructor
    case unknown => simp [reaches, opened]
    case tooLarge => simp [reaches, Nat.not_lt.mpr fits]
    case causes => exact fun cause fails => absurd fails (reaches cause)
    case untouched => exact fun cause fails => absurd fails (reaches cause)
    case passed =>
      intro event' passes
      exact ⟨(checked_eq_ok_iff.mp passes).2, fun cause => reaches (.protocol cause)⟩
    case failed =>
      intro cause refused
      exact absurd (checked_eq_error_iff.mp refused).1 (Nat.not_lt.mpr fits)

end Host

/-! ### The callback that delivers an event -/

namespace Endpoint

/-- What a delivery returns: the handler's answer, and a no for want of a handler. -/
theorem outcome_deliverEvent (event : ChannelEvent) (host : Host σ) (room : Nat) :
    (deliverEvent event host room).outcome =
      (host.dispatch event room).1.map fun answer => answer.toOption.getD false := by
  unfold deliverEvent
  obtain ⟨(fault | cause | handled), after⟩ := host.dispatch event room
  · rfl
  · cases cause <;> rfl
  · rfl

/-- A delivery is misrouted if the channel is not open. -/
theorem misrouted_deliverEvent (event : ChannelEvent) (host : Host σ) (room : Nat) :
    (deliverEvent event host room).misrouted = if host.isOpen event.channel then 0 else 1 := by
  obtain ⟨closed, fails, -⟩ | ⟨opened, -, fails, -⟩ | ⟨opened, -, reaches⟩ :=
    Host.deliver_cases event host (Host.perform room) (Host.watch room)
  · simp only [deliverEvent, Host.dispatch, fails, closed]
    rfl
  · simp only [deliverEvent, Host.dispatch, fails, opened]
    rfl
  · unfold deliverEvent Host.dispatch
    rw [opened]
    generalize host.deliver (Host.perform room) event = result at reaches
    obtain ⟨(fault | cause | handled), after⟩ := result
    · rfl
    · exact absurd rfl (reaches cause)
    · rfl

/-- Whether a callback delivers an event, with so much room for deliveries within, and `read` tells
the answer from what it returns. -/
def Delivers (room : Nat) (event : ChannelEvent) (read : ρ → Bool)
    (callback : Callback π (Host σ) ρ) : Prop :=
  ∀ host, (callback.invoke host).map read = deliverEvent event host room

theorem delivers_eventCallback (room : Nat) (event : ChannelEvent) :
    Delivers room event id (eventCallback event room : Callback ChannelEvent (Host σ) Bool) := by
  intro host
  simp [Work.map, eventCallback, Callback.invoke, Except.map_id]

variable {room : Nat} {event : ChannelEvent} {read : ρ → Bool} {callback : Callback π (Host σ) ρ}

theorem Delivers.outcome (delivers : Delivers room event read callback) (host : Host σ) :
    (callback.invoke host).outcome.map read =
      (host.dispatch event room).1.map fun answer => answer.toOption.getD false := by
  rw [← outcome_deliverEvent, ← delivers host]
  rfl

theorem Delivers.misrouted (delivers : Delivers room event read callback) (host : Host σ) :
    (callback.invoke host).misrouted = if host.isOpen event.channel then 0 else 1 := by
  rw [← misrouted_deliverEvent, ← delivers host]
  rfl

/-- A delivery returns something that reads as a yes if the handler said yes. -/
theorem Delivers.yes_iff (delivers : Delivers room event read callback) (host : Host σ) :
    (∃ value, (callback.invoke host).outcome = .ok value ∧ read value = true) ↔
      (host.dispatch event room).1 = .ok (.ok true) := by
  have same := delivers.outcome host
  generalize (callback.invoke host).outcome = outcome at same ⊢
  generalize (host.dispatch event room).1 = result at same ⊢
  obtain fault | cause | handled := result <;> cases outcome <;>
    simp_all [Except.map, Except.toOption]

/-- A delivery breaks off if a handler's fault comes out of it. -/
theorem Delivers.succeeded_iff (delivers : Delivers room event read callback) (host : Host σ) :
    succeeded (callback.invoke host).outcome = true ↔
      ∀ fault, (host.dispatch event room).1 ≠ .error fault := by
  have same := delivers.outcome host
  generalize (callback.invoke host).outcome = outcome at same ⊢
  generalize (host.dispatch event room).1 = result at same ⊢
  cases result <;> cases outcome <;> simp_all [Except.map, succeeded]

end Endpoint

namespace Bridge

variable {bridge after : Bridge π ω ρ} {key : Nat} {st st' : Standing π ω ρ} {move : Move π ω ρ}
  {settings : BridgeSettings} {past : List (Moment (Bridge π ω ρ) (Move π ω ρ))}
  {now : Bridge π ω ρ} {s : Submission π ω ρ}

/-! ### Routing errors -/

/-- How many events turned out in a moment to have no handler. -/
def misrouted (moment : Moment (Bridge π ω ρ) (Move π ω ρ)) : Nat :=
  match moment.move with
  | .begin key world =>
    match moment.before.submissions[key]? with
    | some s => (s.callback.invoke world).misrouted
    | none => 0
  | _ => 0

/-- Routing errors are counted when a function has been applied, and at no other time. -/
theorem step_routingErrors (made : bridge.step move = some after) :
    after.metrics.routingErrors = bridge.metrics.routingErrors +
      misrouted (⟨bridge, move⟩ : Moment (Bridge π ω ρ) (Move π ω ρ)) := by
  rw [step_metrics made]
  cases move with
  | leave key =>
    obtain ⟨s, result, record, leaving, -⟩ := leave_eq_some made
    simp only [charge, record, leaving]
    cases result with
    | ok value => rfl
    | error failure => cases failure <;> rfl
  | begin key world =>
    obtain ⟨ticket, s, lines, -, -, record, -⟩ := begin_eq_some made
    simp only [charge, misrouted, record]
    rfl
  | advance key timing =>
    obtain ⟨⟨ticket, ahead⟩, found, -⟩ := advance_eq_some made
    simp only [charge, found]
    obtain _ | ⟨milestone, rest⟩ := ahead
    · rfl
    · obtain success | completion | fault := milestone
      · cases success <;> rfl
      · rfl
      · rfl
  | _ => rfl

theorem routingErrors_of_reached (reached : Reached settings past now) :
    now.metrics.routingErrors = past.foldl (fun total moment => total + misrouted moment) 0 := by
  have run := reached.run
  clear reached
  induction run with
  | start => rfl
  | next run made ih => rw [step_routingErrors made, ih, List.foldl_concat]

/-! ### Answers -/

/-- The world in which a deed applies a function, if it does. -/
def Deed.world? : Deed ω ρ → Option ω
  | .applied world => some world
  | _ => none

/-- The worlds in which a function was applied are told by the deeds. -/
theorem invocations_eq_deeds (key : Nat) (past : List (Moment (Bridge π ω ρ) (Move π ω ρ))) :
    invocations key past = (deeds key past).filterMap Deed.world? := by
  rw [invocations, deeds, List.filterMap_filterMap]
  congr 1
  funext moment
  obtain ⟨before, move⟩ := moment
  cases move with
  | begin subject world => by_cases same : subject = key <;> simp [invoked, deed, same, Deed.world?]
  | advance subject timing =>
    have none : ∀ milestone : Milestone ρ,
        (Deed.ofMilestone timing milestone : Deed ω ρ).world? = none := by
      intro milestone
      cases milestone <;> rfl
    by_cases same : subject = key
    · simp only [invoked, deed, same, if_true]
      cases (before.standing key).running.head?.bind List.head? <;> simp [none]
    · simp [invoked, deed, same]
  | _ => rfl

/-- A function that was applied was applied in one world. -/
theorem Deed.world?_take_course (world : ω) (timing : Timing) (outcome : Except Fault ρ)
    (further : Nat) :
    ((course world timing outcome).take (further + 1)).filterMap world? = [world] := by
  have later : ((course world timing outcome).tail.take further).filterMap world? = [] := by
    -- Whatever the outcome, the deeds after the first apply nothing.
    refine List.filterMap_eq_nil_iff.mpr fun deed among => ?_
    have among := List.mem_of_mem_take among
    cases outcome with
    | ok | error =>
      simp only [course, List.tail_cons, List.mem_cons, List.not_mem_nil, or_false] at among
      rcases among with rfl | rfl | rfl <;> rfl
  cases outcome <;> exact congrArg (world :: ·) later

/-- A callback is counted for what its function came to. -/
theorem counted_of_reached {moment : Moment (Bridge π ω ρ) (Move π ω ρ)} {success : Bool}
    {timing : Timing} (reached : Reached settings past now)
    (record : now.submissions[key]? = some s) (member : moment ∈ past)
    (counted : deed key moment = some (.counted success timing)) :
    ∃ world, invocations key past = [world] ∧
      success = succeeded (s.callback.invoke world).outcome := by
  have passage := passage_of_reached reached record
  have among : .counted success timing ∈ deeds key past :=
    List.mem_filterMap.mpr ⟨moment, member, counted⟩
  rw [invocations_eq_deeds]
  generalize deeds key past = done at passage among
  generalize (now.standing key).running = running at passage
  generalize s.outcomes = outcomes at passage
  cases passage with
  | idle => cases among
  | underway world timing further within =>
    refine ⟨world, Deed.world?_take_course world timing _ further, ?_⟩
    have among := List.mem_of_mem_take among
    cases outcome : (s.callback.invoke world).outcome <;> simp_all [Deed.course, succeeded]

/-- A driver that knows what was in its slot has taken it out. -/
theorem collected_of_tells {completion : Completion ρ} (reached : Reached settings past now)
    (told : (now.standing key).Tells completion.result) :
    ∃ moment ∈ past, moment.move = .collect key := by
  refine reached.since (P := fun st => st.Tells completion.result) ?_ ?_ told
  · intro before move st' _ _ change told
    obtain h | ⟨s, record, ⟨-, -, h⟩ | ⟨collect, -⟩ | ⟨limit, -, -, -, h⟩⟩ := change.of_tells told
    · exact .inl h
    · cases completion <;> cases h
    · exact .inr collect
    · cases completion <;> cases h
  · rintro st ⟨s, record, -⟩
    simp [record]

/-- A driver that has taken out what was in its slot knows it. -/
theorem tells_of_collected {moment : Moment (Bridge π ω ρ) (Move π ω ρ)}
    (reached : Reached settings past now) (member : moment ∈ past)
    (collect : moment.move = .collect key) :
    ∃ completion : Completion ρ, (now.standing key).Tells completion.result := by
  refine reached.lasts_of_mem
    (P := fun st => ∃ completion : Completion ρ, st.Tells completion.result) ?_ member ?_
  · rintro before move st' - change ⟨completion, told⟩
    exact ⟨completion, change.tells told⟩
  · intro st' _ change
    rw [collect] at change
    cases change with
    | aside other => exact absurd rfl other
    | collected record waiting filled => exact ⟨_, _, rfl, rfl⟩

/-- What becomes of an event that a driver hands over. -/
structure Answered (room : Nat) (event : ChannelEvent) (read : ρ → Bool) (key : Nat)
    (s : Submission π (Host σ) ρ) (past : List (Moment (Bridge π (Host σ) ρ) (Move π (Host σ) ρ)))
    (now : Bridge π (Host σ) ρ) : Prop where
  /-- Routing errors are counted when functions are applied, and at no other time. -/
  errors : now.metrics.routingErrors = past.foldl (fun total moment => total + misrouted moment) 0
  /-- The event counts as one routing error if its delivery failed because the channel has no
  handler, and else as none, whatever failed inside a handler. -/
  error : ∀ moment ∈ past, ∀ world, invoked key moment = some world →
    ((world.dispatch event room).1 = .ok (.error (.unknownChannel event.channel)) →
        misrouted moment = 1) ∧
      ((world.dispatch event room).1 ≠ .ok (.error (.unknownChannel event.channel)) →
        misrouted moment = 0)
  /-- The callback is counted as completed unless a handler's fault came out of the delivery. -/
  success : ∀ moment ∈ past, ∀ success timing, deed key moment = some (.counted success timing) →
    ∃ world, invocations key past = [world] ∧
      (success = true ↔ ∀ fault, (world.dispatch event room).1 ≠ .error fault)
  /-- The driver answers yes if the event was delivered, its handler said yes, and the driver had
  the result before its limit passed; and it answers no if any of these is not so. -/
  answer : ∀ result, s.caller.result? = some result →
    ((Endpoint.eventAnswer (result.map read)).1 = true ↔
      (∃ world, invocations key past = [world] ∧ (world.dispatch event room).1 = .ok (.ok true)) ∧
        ∃ moment ∈ past, moment.move = .collect key)

section Events

variable {room : Nat} {event : ChannelEvent} {read : ρ → Bool} {key : Nat}
  {s : Submission π (Host σ) ρ} {past : List (Moment (Bridge π (Host σ) ρ) (Move π (Host σ) ρ))}
  {now : Bridge π (Host σ) ρ}

/-- An event that is delivered counts as a routing error if its channel is not open. -/
theorem misrouted_of_invoked {moment : Moment (Bridge π (Host σ) ρ) (Move π (Host σ) ρ)}
    {world : Host σ} (reached : Reached settings past now)
    (record : now.submissions[key]? = some s)
    (delivers : Endpoint.Delivers room event read s.callback)
    (member : moment ∈ past) (applied : invoked key moment = some world) :
    misrouted moment = if world.isOpen event.channel then 0 else 1 := by
  obtain ⟨earlier, rest, after, -, upTo, made, onward⟩ := reached.of_mem member
  obtain ⟨before, move⟩ := moment
  cases move with
  | begin subject world' =>
    obtain ⟨rfl, same⟩ := Option.ite_none_right_eq_some.mp applied
    obtain rfl := Option.some.inj same
    obtain ⟨ticket, s', lines, -, -, record', -⟩ := begin_eq_some made
    have same := callback_of_mem reached member record' record
    simp only [misrouted, record', same]
    exact delivers.misrouted world'
  | _ => cases applied

/-- The driver's answer is a yes if the handler's was, and the driver had it in time. -/
theorem yes_iff_of_reached {result : Except Failure ρ} (reached : Reached settings past now)
    (record : now.submissions[key]? = some s)
    (delivers : Endpoint.Delivers room event read s.callback)
    (told : s.caller.result? = some result) :
    (Endpoint.eventAnswer (result.map read)).1 = true ↔
      (∃ world, invocations key past = [world] ∧ (world.dispatch event room).1 = .ok (.ok true)) ∧
        ∃ moment ∈ past, moment.move = .collect key := by
  constructor
  · intro yes
    cases result with
    | error failure => cases yes
    | ok value =>
      obtain ⟨h, -⟩ | ⟨world, once, h⟩ :=
        explained_of_filled reached record (.value value) (.inr told)
      · cases h
      · have returned := Completion.ofOutcome_eq_value_iff.mp h.symm
        have tells : (now.standing key).Tells (Completion.value value).result := ⟨s, record, told⟩
        exact ⟨⟨world, once, (delivers.yes_iff world).mp ⟨value, returned, yes⟩⟩,
          collected_of_tells reached tells⟩
  · rintro ⟨⟨world, once, handled⟩, moment, member, collect⟩
    obtain ⟨completion, s', record', told'⟩ := tells_of_collected reached member collect
    obtain rfl := Option.some.inj (record.symm.trans record')
    obtain rfl := Option.some.inj (told.symm.trans told')
    obtain ⟨value, returned, yes⟩ := (delivers.yes_iff world).mpr handled
    obtain ⟨-, never⟩ | ⟨world', once', rfl⟩ :=
      explained_of_filled reached record completion (.inr told)
    · have none := never [] now .start
      rw [List.append_nil, once] at none
      cases none
    · obtain rfl := List.singleton_inj.mp (once.symm.trans once')
      have returned : (s.callback.function s.callback.payload world).outcome = .ok value := returned
      rw [returned]
      exact yes

/-- Whatever becomes of an event, in the host and in the bridge, it becomes of it in this way. -/
theorem answered_of_event (event : ChannelEvent) :
    (∀ room (host : Host σ), Host.Screened room event host) ∧
      ∀ room (settings : BridgeSettings) past (now : Bridge π (Host σ) ρ) key s (read : ρ → Bool),
        Reached settings past now → now.submissions[key]? = some s →
          Endpoint.Delivers room event read s.callback →
            Answered room event read key s past now := by
  refine ⟨fun room host => Host.screened room event host,
    fun room settings past now key s read reached record delivers => ?_⟩
  refine ⟨routingErrors_of_reached reached, fun moment member world applied => ?_,
    fun moment member success timing counted => ?_,
    fun result told => yes_iff_of_reached reached record delivers told⟩
  · have unknown := (Host.screened room event world).unknown
    rw [misrouted_of_invoked reached record delivers member applied]
    cases opened : world.isOpen event.channel with
    | false => exact ⟨fun _ => rfl, fun other => absurd (unknown.mpr opened) other⟩
    | true =>
      refine ⟨fun fails => ?_, fun _ => rfl⟩
      rw [unknown.mp fails] at opened
      cases opened
  · obtain ⟨world, once, rfl⟩ := counted_of_reached reached record member counted
    exact ⟨world, once, delivers.succeeded_iff world⟩

/-- An event on a closed channel is answered with a no, is counted as completed, and is a routing
error. -/
theorem answered_of_closed_channel : ∃ past, ∃ now : Bridge ChannelEvent (Host Nat) Bool, ∃ s,
    Reached {} past now ∧ now.submissions[0]? = some s ∧
      s.caller.result? = some (.ok false) ∧ now.metrics.routingErrors = 1 ∧
      now.metrics.completed = 1 ∧ Host.Screened 3 ⟨⟨7⟩, .tx, [1]⟩ ({ memory := 0 } : Host Nat) ∧
      Answered Host.depth ⟨⟨7⟩, .tx, [1]⟩ id 0 s past now := by
  have usable : BridgeSettings.flaw? {} = none := by decide
  have reached := reached_of_moves usable (by decide)
    [.draw (Endpoint.eventCallback ⟨⟨7⟩, .tx, [1]⟩ : Callback ChannelEvent (Host Nat) Bool),
      .push 0, .take, .offer .accepted true, .settle, .begin 0 { memory := 0 }, .advance 0 ⟨⟨0⟩, ⟨5⟩⟩,
      .advance 0 ⟨⟨0⟩, ⟨0⟩⟩, .collect 0]
  obtain ⟨screened, answered⟩ :=
    answered_of_event (σ := Nat) (π := ChannelEvent) (ρ := Bool) ⟨⟨7⟩, .tx, [1]⟩
  exact ⟨_, _, ⟨1, _, none, .leaving (.ok false), [.ok false]⟩, reached, rfl, rfl, rfl, rfl,
    screened 3 _,
    answered Host.depth {} _ _ 0 _ id reached rfl
      (Endpoint.delivers_eventCallback Host.depth ⟨⟨7⟩, .tx, [1]⟩)⟩

end Events

end Bridge
end CallbackFerry
