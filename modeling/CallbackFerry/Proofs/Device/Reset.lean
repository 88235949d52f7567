import CallbackFerry.Proofs.Device
import CallbackFerry.Proofs.Host.Refinement

/-!
# Resets

Whatever has been done to the routing, a reset brings the channels of a device back: the host
forgets all handlers, the device opens its own channels again, and both happen before anybody else
can act.  It makes no difference whether the reset comes by itself or is delivered by a handler that
is in the midst of an event, which may well be the handler of a channel that the reset takes away.
A handler goes on where it was, and its answer is still the answer to its own event.

`reopened_of_view` says what a reset leaves, and `restores_of_later` puts this together with the
messages that are no resets, and with the handlers that are underway.
-/

namespace CallbackFerry

variable {σ : Type}

/-! ### Reactions that are underway -/

/-- How host code comes from one point to another, and the host with it, and what happens on the
way. -/
inductive Reaction.Comes (watch : Watcher σ (Host σ)) :
    Reaction σ → Host σ → List (Incident σ) → Reaction σ → Host σ → Prop
  | here (reaction : Reaction σ) (host : Host σ) : Comes watch reaction host [] reaction host
  | recalled {next : σ → Reaction σ} {rest : Reaction σ} {incidents : List (Incident σ)}
      {host host' : Host σ} (onward : Comes watch (next host.memory) host incidents rest host') :
      Comes watch (.recall next) host incidents rest host'
  | remembered {change : σ → σ} {next rest : Reaction σ} {incidents : List (Incident σ)}
      {host host' : Host σ}
      (onward : Comes watch next (host.remember change) incidents rest host') :
      Comes watch (.remember change next) host incidents rest host'
  | said {line : LogLine} {next rest : Reaction σ} {incidents : List (Incident σ)}
      {host host' : Host σ} (onward : Comes watch next (host.write line) incidents rest host') :
      Comes watch (.say line next) host incidents rest host'
  | asked {action : Action σ} {next : Except Fault Reply → Reaction σ} {rest : Reaction σ}
      {incidents : List (Incident σ)} {course : Course σ (Sighting σ)} {host between host' : Host σ}
      (acted : watch action host = (course, between))
      (onward :
        Comes watch (next (course.outcome.map Sighting.reply)) between incidents rest host') :
      Comes watch (.ask action next) host
        (.did action course.incidents course.outcome :: incidents) rest host'

section Comes

variable {watch : Watcher σ (Host σ)} {perform : Performer σ} {reaction rest : Reaction σ}
  {incidents : List (Incident σ)} {host host' : Host σ}

/-- What host code comes to is what is left of it comes to. -/
theorem Reaction.Comes.run_eq (comes : Comes watch reaction host incidents rest host')
    (watched : Host.Watched perform watch) :
    reaction.run perform host = rest.run perform host' := by
  induction comes with
  | here => rfl
  | recalled _ ih | remembered _ ih | said _ ih => exact ih
  | @asked action _ _ _ _ before _ _ acted _ ih =>
    have performed := watched action before
    rw [acted] at performed
    simp only [Reaction.run, performed, ih]

end Comes

/-- Handler code that waits until a message that it has the host deliver is handled. -/
inductive Suspended (σ : Type) where
  /-- It waits for the handler of an event, for which the entry of the channel is staged. -/
  | event (channel : Channel) (stamp : Nat) (next : Except Fault Reply → Reaction σ)
  /-- It waits for the response handler. -/
  | response (next : Except Fault Reply → Reaction σ)

/-- Goes on after what was waited for is over, with the answer or with the fault that came out of
it. -/
def Suspended.resume (room : Nat) :
    Suspended σ → Except Fault Bool × Host σ → Except Fault Bool × Host σ
  | .event channel stamp next, (.ok handled, host) =>
    (next (.ok (.delivered (.ok handled)))).run (Host.perform room)
      (host.restage channel stamp blankStage)
  | .response next, (.ok handled, host) =>
    (next (.ok (.responded handled))).run (Host.perform room) host
  | .event _ _ next, (.error fault, host) | .response next, (.error fault, host) =>
    (next (.error fault)).run (Host.perform room) host

/-- Goes on with all handlers that wait for each other, from the inside out. -/
def resumeAll : Nat → List (Suspended σ) → Except Fault Bool × Host σ → Except Fault Bool × Host σ
  | _, [], result => result
  | room, inner :: rest, result => resumeAll (room + 1) rest (inner.resume (room + 1) result)

namespace Host

/-- The host with an event staged for a channel's handler. -/
def stage (event : ChannelEvent) (entry : Entry σ) (host : Host σ) : Host σ :=
  host.restage event.channel entry.stamp
    (event.payload ++ entry.staged.drop event.payload.length)

/-- What a delivery comes to when the handler of the event has come to this. -/
def conclude (event : ChannelEvent) (entry : Entry σ) :
    Except Fault Bool × Host σ → Except Fault (Except Failure Bool) × Host σ
  | (.ok handled, host) =>
    (.ok (.ok handled), host.restage event.channel entry.stamp blankStage)
  | (.error fault, host) => (.error fault, host)

theorem fst_conclude (event : ChannelEvent) (entry : Entry σ)
    (result : Except Fault Bool × Host σ) :
    (conclude event entry result).1 = result.1.map .ok := by
  obtain ⟨_ | _, host⟩ := result <;> rfl

/-- The handler of an open channel is called with the event, if the payload fits. -/
theorem deliver_of_entry {event : ChannelEvent} {entry : Entry σ} {host : Host σ}
    (here : host.routes.get? event.channel = some entry)
    (fits : event.payload.length ≤ maxPayload) (perform : Performer σ) :
    host.deliver perform event =
      conclude event entry ((entry.handler.react event).run perform (host.stage event entry)) := by
  have passes : checkPayload event.payload = .ok () := if_neg (Nat.not_lt.mpr fits)
  simp only [Host.deliver, here, passes, List.take_left]
  rfl

/-- Whether the delivery of an event that began in one host is underway in another one: how much
room is left there, which handlers wait, and the rest of what the innermost one does. -/
inductive Underway (event : ChannelEvent) (start : Host σ) :
    Nat → List (Suspended σ) → Reaction σ → Host σ → Prop
  | begun {room : Nat} {entry : Entry σ} (here : start.routes.get? event.channel = some entry)
      (fits : event.payload.length ≤ maxPayload) :
      Underway event start room [] (entry.handler.react event) (start.stage event entry)
  | comes {room : Nat} {outer : List (Suspended σ)} {reaction rest : Reaction σ}
      {incidents : List (Incident σ)} {host host' : Host σ}
      (underway : Underway event start room outer reaction host)
      (onward : Reaction.Comes (watch room) reaction host incidents rest host') :
      Underway event start room outer rest host'
  | dispatched {room : Nat} {outer : List (Suspended σ)} {inner : ChannelEvent} {entry : Entry σ}
      {next : Except Fault Reply → Reaction σ} {host : Host σ}
      (underway : Underway event start (room + 1) outer (.ask (.dispatch inner) next) host)
      (here : host.routes.get? inner.channel = some entry)
      (fits : inner.payload.length ≤ maxPayload) :
      Underway event start room (.event inner.channel entry.stamp next :: outer)
        (entry.handler.react inner) (host.stage inner entry)
  | responded {room : Nat} {outer : List (Suspended σ)} {response : Response}
      {next : Except Fault Reply → Reaction σ} {host : Host σ}
      (underway : Underway event start (room + 1) outer (.ask (.respond response) next) host) :
      Underway event start room (.response next :: outer) (host.responder.react response) host

/-- A delivery that is underway comes to what its handler comes to when the innermost handler is
over and all others go on. -/
theorem Underway.deliver {event : ChannelEvent} {start host : Host σ} {room : Nat}
    {outer : List (Suspended σ)} {rest : Reaction σ}
    (underway : Underway event start room outer rest host) :
    (start.deliver (perform (room + outer.length)) event).1 =
      (resumeAll room outer (rest.run (perform room) host)).1.map .ok := by
  induction underway with
  | @begun room entry here fits =>
    rw [List.length_nil, Nat.add_zero, deliver_of_entry here fits, fst_conclude, resumeAll]
  | comes _ onward ih => rw [ih, onward.run_eq (perform_eq_watch _)]
  | @dispatched room outer inner entry next host _ here fits ih =>
    rw [List.length_cons, ← Nat.add_assoc, Nat.add_right_comm, ih, resumeAll]
    congr 3
    simp only [Reaction.run, perform, deliver_of_entry here fits]
    obtain ⟨_ | _, after⟩ :=
      (entry.handler.react inner).run (perform room) (host.stage inner entry) <;> rfl
  | @responded room outer response next host _ ih =>
    rw [List.length_cons, ← Nat.add_assoc, Nat.add_right_comm, ih, resumeAll]
    congr 3
    simp only [Reaction.run, perform, deliverResponse]
    obtain ⟨_ | _, after⟩ := (host.responder.react response).run (perform room) host <;> rfl

end Host

/-! ### The response handler -/

/-- Whether an action replaces the response handler. -/
def Action.replaces : Action σ → Bool
  | .setResponder _ => true
  | _ => false

mutual

/-- Whether the response handler is replaced in an incident. -/
def Incident.replaces : Incident σ → Bool
  | .called _ => false
  | .did action meanwhile _ => action.replaces || replacesAny meanwhile

/-- Whether the response handler is replaced in any of these incidents. -/
def replacesAny : List (Incident σ) → Bool
  | [] => false
  | incident :: rest => incident.replaces || replacesAny rest

end

theorem Table.responder_after {action : Action σ} (kept : action.replaces = false)
    (table : Table σ) : (table.after action).responder = table.responder := by
  cases action with
  | setResponder => cases kept
  | _ => rfl

mutual

theorem Incident.responder_replay (incident : Incident σ) (table : Table σ)
    (kept : incident.replaces = false) : (incident.replay table).responder = table.responder := by
  match incident with
  | .called _ => rfl
  | .did action meanwhile _ =>
    rw [Incident.replaces, Bool.or_eq_false_iff] at kept
    rw [Incident.replay, responder_replayAll meanwhile _ kept.2, Table.responder_after kept.1]

/-- The response handler stays as long as nobody replaces it. -/
theorem responder_replayAll (incidents : List (Incident σ)) (table : Table σ)
    (kept : replacesAny incidents = false) :
    (replayAll incidents table).responder = table.responder := by
  match incidents with
  | [] => rfl
  | incident :: rest =>
    rw [replacesAny, Bool.or_eq_false_iff] at kept
    rw [replayAll, responder_replayAll rest _ kept.2, incident.responder_replay _ kept.1]

end

/-- The response handler stays on any way that host code comes on which nobody replaces it. -/
theorem Reaction.Comes.responder_eq {room : Nat} {reaction rest : Reaction σ}
    {incidents : List (Incident σ)} {host host' : Host σ}
    (comes : Comes (Host.watch room) reaction host incidents rest host')
    (kept : replacesAny incidents = false) : host'.responder = host.responder := by
  induction comes with
  | here => rfl
  | recalled _ ih | remembered _ ih | said _ ih => exact ih kept
  | @asked action _ _ _ course before between _ acted _ ih =>
    rw [replacesAny, Bool.or_eq_false_iff] at kept
    -- One action changes the routing as the incidents within tell.
    have table := Host.table_watch room action before
    rw [acted] at table
    have replayed : between.table =
        (Incident.did action course.incidents course.outcome).replay before.table := by
      rw [table, Incident.replay]
    have here : between.responder = before.responder :=
      (congrArg Table.responder replayed).trans (Incident.responder_replay _ _ kept.1)
    rw [ih kept.2, here]

/-- The hosts that come about after one by host code, at any depth and in the midst of it as well as
at its end, without anybody replacing the response handler. -/
inductive Host.Later (first : Host σ) : Host σ → Prop
  | first : Later first first
  | comes {room : Nat} {reaction rest : Reaction σ} {incidents : List (Incident σ)}
      {host host' : Host σ} (later : Later first host)
      (onward : Reaction.Comes (Host.watch room) reaction host incidents rest host')
      (kept : replacesAny incidents = false) : Later first host'
  /-- An event is staged for its handler, or the staging buffer is blanked. -/
  | staged {host : Host σ} {channel : Channel} {stamp : Nat} {bytes : Bytes}
      (later : Later first host) : Later first (host.restage channel stamp bytes)

theorem Host.Later.responder_eq {first host : Host σ} (later : Later first host) :
    host.responder = first.responder := by
  induction later with
  | first => rfl
  | comes _ onward kept ih => rw [onward.responder_eq kept, ih]
  | staged _ ih => exact ih

/-! ### Resets -/

namespace Device

variable {place : Place σ} {channels : List ChannelSettings} {host after : Host σ}

/-- What a reset of a device leaves. -/
structure Reopened (place : Place σ) (channels : List ChannelSettings) (host after : Host σ) :
    Prop where
  /-- It is counted, -/
  resets : (place.read after.memory).resets = (place.read host.memory).resets + 1
  /-- and neither events nor faults are. -/
  counts : (place.read after.memory).delivered = (place.read host.memory).delivered ∧
    (place.read after.memory).faults = (place.read host.memory).faults
  /-- The channels of the device are open, and no others. -/
  opened : ∀ channel, after.isOpen channel = true ↔
    channel ∈ channels.map ChannelSettings.channel
  /-- Each has the handler of the device that is set last for it. -/
  handled : ∀ channel settings, setting? channels channel = some settings →
    after.lookup channel = .ok (handler place settings)
  /-- Another reset would do the same. -/
  lasts : after.responder = responder place ∧ (place.read after.memory).channels = channels

/-- Whatever was open before, a reset leaves the channels of the device. -/
theorem reopened_of_view (known : (place.read host.memory).channels = channels)
    (responds : host.responder = responder place)
    (view : after.view = (openOn place channels host.table.clear,
      place.update recordReset host.memory)) : Reopened place channels host after := by
  obtain ⟨table, memory⟩ := Prod.mk.inj view
  have memory : after.memory = place.update recordReset host.memory := memory
  have handlers : ∀ channel, after.table.handlers channel =
      (setting? channels channel).map (handler place) := by
    intro channel
    rw [table, handlers_openOn]
    exact Option.or_none
  have account : place.read after.memory = (place.read host.memory).recordReset := by
    rw [memory, Place.read_update]
  refine ⟨?_, ?_, fun channel => ?_, fun channel settings last => ?_, ?_, ?_⟩
  · rw [account]
    rfl
  · rw [account]
    exact ⟨rfl, rfl⟩
  · rw [← Host.isOpen_table, Table.isOpen, handlers, Option.isSome_map]
    exact isSome_setting?
  · rw [Host.lookup_eq_ok_iff, handlers, last]
    rfl
  · have kept : after.table.responder = host.table.responder := by
      rw [table, responder_openOn]
      rfl
    exact kept.trans responds
  · rw [account]
    exact known

/-- What is no reset is commented on, and nothing else happens. -/
theorem deliverResponse_other (responds : host.responder = responder place) (room : Nat)
    {response : Response} (code : response.code ≠ .systemReset) :
    host.deliverResponse (Host.perform room) response =
      (.ok true,
        host.write (Commentary.onResponse response.channel response.code response.payload)) := by
  simp only [Host.deliverResponse, responds, responder, ResponseHandler.react]
  rfl

/-- What responses do in a host whose response handler is that of a device with these channels. -/
structure Restores (place : Place σ) (channels : List ChannelSettings) (host : Host σ) : Prop where
  /-- A reset is answered with a yes and restores the channels.  A handler that has it delivered
  goes on after that, as do all that wait for it, and the delivery of the event with which this
  began comes to what its handler comes to. -/
  reset : ∀ room response, response.code = .systemReset → ∃ after : Host σ,
    Reopened place channels host after ∧
      host.deliverResponse (Host.perform room) response = (.ok true, after) ∧
      ∀ next : Except Fault Reply → Reaction σ,
        (Reaction.ask (.respond response) next).run (Host.perform (room + 1)) host =
            (next (.ok (.responded true))).run (Host.perform (room + 1)) after ∧
          ∀ event start outer,
            Host.Underway event start (room + 1) outer (.ask (.respond response) next) host →
              (start.deliver (Host.perform (room + 1 + outer.length)) event).1 =
                (resumeAll (room + 1) outer
                  ((next (.ok (.responded true))).run (Host.perform (room + 1)) after)).1.map .ok
  /-- Any other response is answered with a yes and leaves a line behind, and nothing else. -/
  other : ∀ room response, response.code ≠ .systemReset →
    host.deliverResponse (Host.perform room) response =
      (.ok true, host.write (Commentary.onResponse response.channel response.code response.payload))

/-- Whatever has happened in a host since the response handler of a device was installed, and
whatever is underway in it, the device restores its channels. -/
theorem restores_of_later {first : Host σ} (later : Host.Later (installIn place first) host)
    (known : (place.read host.memory).channels = channels)
    (countable : (place.read host.memory).resets < maxResets) : Restores place channels host := by
  have responds : host.responder = responder place := later.responder_eq
  refine ⟨fun room response code => ?_, fun room response => deliverResponse_other responds room⟩
  obtain ⟨after, answers, view⟩ := deliverResponse_reset responds countable room code
  rw [known] at view
  have goes : ∀ next : Except Fault Reply → Reaction σ,
      (Reaction.ask (.respond response) next).run (Host.perform (room + 1)) host =
        (next (.ok (.responded true))).run (Host.perform (room + 1)) after := by
    intro next
    simp only [Reaction.run, Host.perform, answers]
  refine ⟨after, reopened_of_view known responds view, answers, fun next => ⟨goes next, ?_⟩⟩
  intro event start outer underway
  rw [underway.deliver, goes]

/-- An entry with a handler that resets the device and then does not accept the event. -/
def meddler : Entry Device where
  handler := .mk none fun _ => .request (.respond ⟨⟨0⟩, .systemReset, []⟩) fun _ => .answer false
  stamp := 0

/-- The host of a device that has channel 3 twice, where somebody else has opened channel 9. -/
def meddled : Host Device where
  routes := ChannelMap.empty.insert ⟨9⟩ meddler
  memory := { channels := [⟨⟨3⟩, .counting⟩, ⟨⟨3⟩, .logging⟩] }
  nextStamp := 1
  fresh := by
    intro channel entry found
    rw [ChannelMap.get?_insert] at found
    split at found
    · obtain rfl := Option.some.inj found
      exact Nat.zero_lt_one
    · cases found

/-- The device restores its channel from within the handler of the other one. -/
theorem restores_of_meddled :
    Host.Underway ⟨⟨9⟩, .tx, [1]⟩ (installIn Place.whole meddled) 1 []
        (meddler.handler.react ⟨⟨9⟩, .tx, [1]⟩)
        ((installIn Place.whole meddled).stage ⟨⟨9⟩, .tx, [1]⟩ meddler) ∧
      Restores Place.whole [⟨⟨3⟩, .counting⟩, ⟨⟨3⟩, .logging⟩]
        ((installIn Place.whole meddled).stage ⟨⟨9⟩, .tx, [1]⟩ meddler) :=
  ⟨.begun rfl (by decide), restores_of_later (.staged .first) rfl (by decide)⟩

end Device
end CallbackFerry
