import CallbackFerry.Bridge.Endpoint
import CallbackFerry.Device
import CallbackFerry.Proofs.Host.Table

/-!
# The device serves its channels

A host `Serves` the channels of a device if each of them has a handler of the device, no other
channel has a handler, and responses go to the device.  This is so once the device is installed
(`serves_installed`), and it stays so whatever is delivered.

An event on one of the channels is handled and counted (`Serves.deliver`), an event on another one
is not (`Serves.deliver_closed`), and a reset takes the handlers away and puts them back before
anything else can be delivered (`Serves.respond_reset`).
-/

namespace CallbackFerry

/-! ### Counting events -/

/-- A pair that is before all others in an ascending list is the only one with its channel. -/
theorem ChannelMap.find?_of_forall_lt {α : Type} {channel : Channel} {pairs : List (Channel × α)}
    (later : ∀ pair ∈ pairs, channel.number < pair.1.number) :
    pairs.find? (fun pair => pair.1 = channel) = none := by
  refine List.find?_eq_none.mpr fun pair member same => ?_
  have less := later pair member
  rw [of_decide_eq_true same] at less
  exact UInt8.lt_irrefl _ less

/-- One more for a channel is one more for all channels together. -/
theorem Device.sum_insertPair {channel : Channel} :
    {pairs : List (Channel × Nat)} → Ascending pairs →
      (ChannelMap.insertPair channel
          (((pairs.find? fun pair => pair.1 = channel).map (·.2)).getD 0 + 1) pairs).foldr
        (fun pair sum => pair.2 + sum) 0 = pairs.foldr (fun pair sum => pair.2 + sum) 0 + 1
  | [], _ => rfl
  | (other, count) :: rest, ascending => by
    obtain ⟨first, later⟩ := List.pairwise_cons.mp ascending
    unfold ChannelMap.insertPair
    split
    · next less =>
      -- All channels that are there come later, so this one had no count.
      have absent : ((other, count) :: rest).find? (fun pair => pair.1 = channel) = none := by
        refine ChannelMap.find?_of_forall_lt fun pair member => ?_
        rcases List.mem_cons.mp member with rfl | behind
        · exact less
        · exact UInt8.lt_trans less (first pair behind)
      rw [absent]
      simp only [Option.map_none, Option.getD_none, List.foldr_cons]
      omega
    · split
      · next same =>
        simp only [same, List.find?_cons, decide_true, Option.map_some, Option.getD_some,
          List.foldr_cons]
        omega
      · next distinct =>
        have behind : ((other, count) :: rest).find? (fun pair => pair.1 = channel) =
            rest.find? fun pair => pair.1 = channel := by
          rw [List.find?_cons, decide_eq_false (Ne.symm distinct)]
        rw [behind, List.foldr_cons, sum_insertPair later, List.foldr_cons, Nat.add_assoc]

theorem Device.total_recordEvent (channel : Channel) (device : Device) :
    (device.recordEvent channel).total = device.total + 1 :=
  sum_insertPair device.delivered.ascending

/-! ### Opening the channels -/

variable {σ : Type} {place : Place σ} {channels : List ChannelSettings} {host : Host σ}

@[simp]
theorem Place.read_update (change : Device → Device) (memory : σ) :
    place.read (place.update change memory) = change (place.read memory) :=
  place.read_write _ _

namespace Device

/-- The table with the handlers of a device for some channels. -/
def openOn (place : Place σ) (channels : List ChannelSettings) (table : Table σ) : Table σ :=
  channels.foldl
    (fun table settings => table.assign settings.channel (some (handler place settings))) table

theorem responder_openOn (table : Table σ) : (openOn place channels table).responder =
    table.responder := by
  induction channels generalizing table with
  | nil => rfl
  | cons settings rest ih => exact ih _

/-- What is set for a channel: the last setting decides. -/
def setting? (channels : List ChannelSettings) (channel : Channel) : Option ChannelSettings :=
  channels.reverse.find? fun settings => settings.channel = channel

theorem setting?_cons (settings : ChannelSettings) (rest : List ChannelSettings)
    (channel : Channel) : setting? (settings :: rest) channel =
      (setting? rest channel).or (if settings.channel = channel then some settings else none) := by
  rw [setting?, List.reverse_cons, List.find?_append, List.find?_singleton, setting?]
  simp

theorem isSome_setting? {channel : Channel} :
    (setting? channels channel).isSome ↔ channel ∈ channels.map ChannelSettings.channel := by
  simp [setting?, List.find?_isSome]

/-- A channel that is opened gets the handler that is set last for it, and no other channel is
touched. -/
theorem handlers_openOn (table : Table σ) (channel : Channel) :
    (openOn place channels table).handlers channel =
      ((setting? channels channel).map (handler place)).or (table.handlers channel) := by
  induction channels generalizing table with
  | nil => rfl
  | cons settings rest ih =>
    -- A channel that is opened again later has the later handler.
    rw [setting?_cons]
    refine (ih (table.assign settings.channel (some (handler place settings)))).trans ?_
    cases later : setting? rest channel with
    | some other => rfl
    | none =>
      by_cases here : settings.channel = channel
      · simp [Table.assign, here]
      · simp [Table.assign, here, Ne.symm here]

/-- Opening channels gives them the handlers of the device, and nothing else happens. -/
theorem run_opening (place : Place σ) (channels : List ChannelSettings) (room : Nat)
    (next : Reaction σ) (host : Host σ) : ∃ after : Host σ,
    after.view = (openOn place channels host.table, host.memory) ∧
      (opening place channels next).run (Host.perform room) host =
        next.run (Host.perform room) after := by
  induction channels generalizing host with
  | nil =>
    refine ⟨host.write (line .info (toString host.size ++ " channel(s) open")), rfl, ?_⟩
    simp only [opening, Reaction.request, Reaction.run, Host.perform, countOf]
  | cons settings rest ih =>
    obtain ⟨after, view, run⟩ := ih
      ((host.register settings.channel (handler place settings)).2.write
        (line .debug ("Opened channel " ++ settings.channel.text ++ " ("
          ++ settings.kind.identifier ++ " handler)")))
    refine ⟨after, ?_, ?_⟩
    · rw [view]
      have table := Host.table_register host settings.channel (handler place settings)
      exact congrArg (fun table => (openOn place rest table, host.memory)) table
    · simp only [opening, Reaction.request, Reaction.run, Host.perform]
      exact run

/-- Opening the channels of a device leaves its account as it is. -/
theorem view_openIn (place : Place σ) (host : Host σ) : (openIn place host).view =
    (openOn place (place.read host.memory).channels host.table, host.memory) := by
  obtain ⟨after, view, run⟩ := run_opening place (place.read host.memory).channels Host.depth
    (.answer true) host
  have whole : openIn place host = after := by
    unfold openIn Host.carryOut
    rw [run]
    rfl
  rw [whole, view]

/-! ### Serving -/

/-- Whether a host has the handlers of a device for its channels, and for no others. -/
structure Serves (place : Place σ) (channels : List ChannelSettings) (host : Host σ) : Prop where
  /-- The device knows its channels. -/
  known : (place.read host.memory).channels = channels
  /-- Each of them has a handler of the device. -/
  opened : ∀ channel ∈ channels.map ChannelSettings.channel, ∃ settings,
    host.table.handlers channel = some (handler place settings)
  /-- No other channel has a handler. -/
  closed : ∀ channel ∉ channels.map ChannelSettings.channel, host.table.handlers channel = none
  /-- Responses go to the device. -/
  responds : host.table.responder = responder place
  /-- Events were delivered on these channels only. -/
  delivered : ∀ channel ∈ (place.read host.memory).delivered.channels,
    channel ∈ channels.map ChannelSettings.channel

/-- What is served depends on the routing and on what is remembered. -/
theorem Serves.of_view {after : Host σ} (serves : Serves place channels host)
    (table : after.table = host.table) (known : (place.read after.memory).channels = channels)
    (delivered : ∀ channel ∈ (place.read after.memory).delivered.channels,
      channel ∈ channels.map ChannelSettings.channel) : Serves place channels after :=
  ⟨known, table ▸ serves.opened, table ▸ serves.closed, table ▸ serves.responds, delivered⟩

/-- Counting a fault is no matter of the channels. -/
theorem Serves.recordFault (serves : Serves place channels host) :
    Serves place channels (host.remember (place.update Device.recordFault)) := by
  refine serves.of_view rfl ?_ ?_
  · simpa [Host.remember, Device.recordFault] using serves.known
  · simpa [Host.remember, Device.recordFault] using serves.delivered

/-- A host serves the channels of a device that have just been opened on it, if no others were open
and nothing was delivered on others. -/
theorem serves_of_openOn {after : Host σ} {table : Table σ}
    (opened : after.table.handlers = (openOn place channels table).handlers)
    (empty : ∀ channel, table.handlers channel = none)
    (known : (place.read after.memory).channels = channels)
    (responds : after.table.responder = responder place)
    (delivered : ∀ channel ∈ (place.read after.memory).delivered.channels,
      channel ∈ channels.map ChannelSettings.channel) : Serves place channels after := by
  refine ⟨known, fun channel member => ?_, fun channel absent => ?_, responds, delivered⟩
  · obtain ⟨settings, found⟩ := Option.isSome_iff_exists.mp (isSome_setting?.mpr member)
    exact ⟨settings, by rw [opened, handlers_openOn, found]; rfl⟩
  · have none := Option.not_isSome_iff_eq_none.mp (mt isSome_setting?.mp absent)
    rw [opened, handlers_openOn, none, empty]
    rfl

/-- A host without any channels, on which nothing was delivered, serves the channels of the device
once it is installed. -/
theorem serves_installed {host : Host σ} (blank : host.routes = .empty)
    (known : (place.read host.memory).channels = channels)
    (fresh : (place.read host.memory).delivered = .empty) :
    Serves place channels (installIn place (openIn place host)) := by
  obtain ⟨table, memory⟩ : (openIn place host).table =
        openOn place (place.read host.memory).channels host.table ∧
      (openIn place host).memory = host.memory := Prod.mk.inj (view_openIn place host)
  rw [known] at table
  have kept : (installIn place (openIn place host)).memory = host.memory := memory
  have handlers := congrArg Table.handlers table
  have installed : (installIn place (openIn place host)).table.handlers =
      (openOn place channels host.table).handlers := handlers
  refine serves_of_openOn installed ?_ ?_ rfl ?_
  · intro channel
    rw [Host.handlers_table, blank]
    rfl
  · rw [kept, known]
  · intro channel member
    rw [kept, fresh] at member
    cases member

/-! ### Deliveries -/

/-- A handler of the device answers at once, and only counts. -/
theorem run_handler (place : Place σ) (room : Nat) (settings : ChannelSettings)
    (event : ChannelEvent) (host : Host σ) : ∃ after : Host σ,
      ((handler place settings).react event).run (Host.perform room) host = (.ok true, after) ∧
        after.view = (host.table, place.update (recordEvent event.channel) host.memory) := by
  cases kind : settings.kind <;>
    simp only [handler, EventHandler.react, kind, Reaction.run] <;> exact ⟨_, rfl, rfl⟩

/-- An event on a channel of the device is handled and counted. -/
theorem Serves.deliver (serves : Serves place channels host) {event : ChannelEvent}
    (opened : event.channel ∈ channels.map ChannelSettings.channel)
    (fits : event.payload.length ≤ maxPayload) : ∃ after,
      Endpoint.deliverEvent event host = { outcome := .ok true, world := after } ∧
        after.memory = place.update (recordEvent event.channel) host.memory ∧
        Serves place channels after := by
  obtain ⟨settings, registered⟩ := serves.opened _ opened
  obtain ⟨entry, here, handler⟩ := Option.map_eq_some_iff.mp registered
  have checked : checkPayload event.payload = .ok () := if_neg (Nat.not_lt.mpr fits)
  let staged : Bytes := event.payload ++ entry.staged.drop event.payload.length
  obtain ⟨after, run, view⟩ := run_handler place Host.depth settings
    { event with payload := staged.take event.payload.length }
    (host.restage event.channel entry.stamp staged)
  have same : (host.restage event.channel entry.stamp staged).view = host.view := Host.view_restage ..
  have last : (after.restage event.channel entry.stamp blankStage).view =
      (host.table, place.update (recordEvent event.channel) host.memory) := by
    rw [Host.view_restage, view]
    exact congrArg (fun view => (view.1, place.update (recordEvent event.channel) view.2)) same
  obtain ⟨table, memory⟩ := Prod.mk.inj last
  refine ⟨after.restage event.channel entry.stamp blankStage, ?_, memory, ?_⟩
  · rw [← handler] at run
    simp only [Endpoint.deliverEvent, Host.dispatch, Host.deliver, here, checked]
    rw [run]
  · refine serves.of_view table ?_ ?_
    · rw [memory, Place.read_update]
      exact serves.known
    · rw [memory, Place.read_update]
      intro channel member
      rw [ChannelMap.mem_channels, recordEvent, ChannelMap.get?_insert] at member
      by_cases same : event.channel = channel
      · exact same ▸ opened
      · rw [if_neg same] at member
        exact serves.delivered channel (ChannelMap.mem_channels.mpr member)

/-- An event on a channel that the device does not have is not handled, and is misrouted. -/
theorem Serves.deliver_closed (serves : Serves place channels host) {event : ChannelEvent}
    (closed : event.channel ∉ channels.map ChannelSettings.channel) : ∃ after,
      Endpoint.deliverEvent event host = { outcome := .ok false, world := after, misrouted := 1 } ∧
        after.memory = host.memory ∧ Serves place channels after := by
  have absent : host.routes.get? event.channel = none :=
    Option.map_eq_none_iff.mp (serves.closed _ closed)
  refine ⟨host.write (Endpoint.undeliveredLine event "Dropping" (.unknownChannel event.channel)), ?_,
    rfl, serves.of_view rfl serves.known serves.delivered⟩
  simp only [Endpoint.deliverEvent, Host.dispatch, Host.deliver, absent]

/-- A reset is counted, and when it is over the channels of the device are open and no others are,
whatever was open before. -/
theorem deliverResponse_reset (responds : host.responder = responder place)
    (countable : (place.read host.memory).resets < maxResets) (room : Nat) {response : Response}
    (code : response.code = .systemReset) : ∃ after : Host σ,
      host.deliverResponse (Host.perform room) response = (.ok true, after) ∧
        after.view = (openOn place (place.read host.memory).channels host.table.clear,
          place.update recordReset host.memory) := by
  obtain ⟨after, view, run⟩ := run_opening place (place.read host.memory).channels room
    (.answer true) (host.remember (place.update recordReset)).reset
  refine ⟨after, ?_, view⟩
  simp only [Host.deliverResponse, responds, responder, ResponseHandler.react, code, Reaction.request,
    Reaction.run, if_pos countable, Host.perform]
  exact run

/-- A device that serves its channels does so after a reset. -/
theorem Serves.respond_reset (serves : Serves place channels host) (payload : Bytes)
    (countable : (place.read host.memory).resets < maxResets) : ∃ after,
      Endpoint.deliverResponse ⟨⟨0⟩, .systemReset, payload⟩ host =
          { outcome := .ok true, world := after } ∧
        after.memory = place.update recordReset host.memory ∧ Serves place channels after := by
  have responds : host.responder = responder place := serves.responds
  have code : (⟨⟨0⟩, .systemReset, payload⟩ : Response).code = .systemReset := rfl
  obtain ⟨after, answers, view⟩ := deliverResponse_reset responds countable Host.depth code
  obtain ⟨table, memory⟩ := Prod.mk.inj view
  have memory : after.memory = place.update recordReset host.memory := memory
  rw [serves.known] at table
  refine ⟨after, ?_, memory, ?_⟩
  · rw [Endpoint.deliverResponse, Host.respond, answers]
  · refine serves_of_openOn (congrArg Table.handlers table) (fun _ => rfl) ?_ ?_ ?_
    · rw [memory, Place.read_update]
      exact serves.known
    · rw [table, responder_openOn]
      exact serves.responds
    · rw [memory, Place.read_update]
      exact serves.delivered

end Device
end CallbackFerry
