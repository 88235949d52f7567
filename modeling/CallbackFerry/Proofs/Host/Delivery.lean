import CallbackFerry.Proofs.Host.Room
import CallbackFerry.Proofs.Host.Table

/-!
# Deliveries are exact

A handler may do anything while it handles an event: take channels away, its own among them, give
them to others, and have events delivered, on its own channel too, which uses the very staging
buffer that its own event went through.  If the handler of such an event breaks off, it may catch
the fault and go on.  None of that changes what was delivered.  `exact_of_registered` says that a
delivery calls the handler that the channel had at the beginning, once and before anything else,
with the event as it is, and that the routing afterwards is what the actions within made of the
routing at the beginning.
-/

namespace CallbackFerry.Host

variable {σ : Type} {host other : Host σ} {event : ChannelEvent} {handler : EventHandler σ}

/-- What a delivery is that calls a handler with an event: the incidents within, the handler's
answer, and the host afterwards. -/
structure Exact (room : Nat) (event : ChannelEvent) (handler : EventHandler σ) (host : Host σ)
    (within : List (Incident σ)) (answer : Except Fault Bool) (after : Host σ) : Prop where
  /-- The delivery answers what the handler answers, and lets a fault of it through. -/
  answers : host.deliver (perform room) event = (answer.map .ok, after)
  /-- The handler is called before anything else, with the event as it is. -/
  calls : host.watch (room + 1) (.dispatch event) =
    (⟨.called (.event handler event) :: within,
      answer.map fun handled => .delivered (.ok handled)⟩, after)
  /-- It is called once: all else is done by actions. -/
  once : ∀ incident ∈ within, ∃ action meanwhile sighting,
    incident = .did action meanwhile sighting
  /-- All of it is what the handler does with the event on the routing at the beginning. -/
  reacts : (handler.react event).enact Table.keeping (Table.watch room) host.view =
    (⟨within, answer⟩, after.view)
  /-- The routing afterwards is what the actions within make of the routing at the beginning. -/
  routes : after.table = replayAll within host.table
  /-- Whatever was delivered before: the buffers of the host make no difference. -/
  unstaged : ∀ other : Host σ, other.view = host.view →
    (other.watch (room + 1) (.dispatch event)).1 = (host.watch (room + 1) (.dispatch event)).1 ∧
      (other.watch (room + 1) (.dispatch event)).2.view = after.view
  /-- However deep deliveries nest: unless one lacked room, the room makes no difference. -/
  deeper : roomyAll within = true → ∀ more,
    host.watch (room + 1 + more) (.dispatch event) = host.watch (room + 1) (.dispatch event)

theorem checkPayload_of_le (fits : event.payload.length ≤ maxPayload) :
    checkPayload event.payload = .ok () :=
  if_neg (Nat.not_lt.mpr fits)

/-- A handler that is found is that of an entry. -/
theorem get?_of_lookup (registered : host.lookup event.channel = .ok handler) :
    ∃ entry, host.routes.get? event.channel = some entry ∧ entry.handler = handler := by
  unfold lookup at registered
  cases here : host.routes.get? event.channel with
  | none =>
    rw [here] at registered
    cases registered
  | some entry =>
    rw [here] at registered
    exact ⟨entry, rfl, Except.ok.inj registered⟩

/-- What is watched depends on the routing and on what the handlers remember alone. -/
theorem watch_congr (room : Nat) (action : Action σ) (same : other.view = host.view) :
    (other.watch room action).1 = (host.watch room action).1 ∧
      (other.watch room action).2.view = (host.watch room action).2.view := by
  have seen := watch_view room action other
  rw [same, watch_view room action host] at seen
  obtain ⟨course, after⟩ := Prod.mk.inj seen
  exact ⟨course.symm, after.symm⟩

/-- A delivery that is watched to come to an answer of a handler comes to that answer. -/
theorem deliver_of_watch {room : Nat} {answer : Except Fault Bool}
    (outcome : (host.watchDelivery (watch room) event).1.outcome =
      answer.map fun handled => .delivered (.ok handled)) :
    host.deliver (perform room) event =
      (answer.map .ok, (host.watchDelivery (watch room) event).2) := by
  obtain ⟨answers, after⟩ := (perform_eq_watch room).deliver event host
  rw [outcome] at answers
  refine Prod.ext ?_ after.symm
  generalize (host.deliver (perform room) event).1 = delivered at answers
  cases answer <;> cases delivered <;> simp_all [Except.map, Sighting.reply]

/-- A delivery to a registered handler is exact, whatever the handler does. -/
theorem exact_of_registered (room : Nat) (registered : host.lookup event.channel = .ok handler)
    (fits : event.payload.length ≤ maxPayload) :
    ∃ within answer after, Exact room event handler host within answer after := by
  obtain ⟨entry, here, rfl⟩ := get?_of_lookup registered
  obtain ⟨stage, same, course, after⟩ :=
    watchDelivery_of_get? (watch room) here (checkPayload_of_le fits)
  have seen : Seen (watch room : Watcher σ (Host σ)) (Table.watch room) := watch_view room
  -- All that happens is the reaction, begun on a host with the payload in the buffer.
  have reacts := seen.enact (entry.handler.react event) stage
  have once : ∀ incident ∈ ((entry.handler.react event).enact keeping (watch room) stage).1.incidents,
      ∃ action meanwhile sighting, incident = .did action meanwhile sighting :=
    Reaction.did_of_mem_enact _ stage
  have routes := (Table.watch_replay room).enact (entry.handler.react event) host.view
  rw [same] at reacts
  rw [reacts, ← after] at routes
  rw [← after] at reacts
  generalize (entry.handler.react event).enact keeping (watch room) stage = result at *
  obtain ⟨⟨within, answer⟩, last⟩ := result
  have calls : host.watch (room + 1) (.dispatch event) =
      (⟨.called (.event entry.handler event) :: within,
        answer.map fun handled => .delivered (.ok handled)⟩,
        (host.watchDelivery (watch room) event).2) := Prod.ext course rfl
  refine ⟨within, answer, (host.watchDelivery (watch room) event).2, ?_, calls, once, reacts, routes,
    fun other same => watch_congr (room + 1) (.dispatch event) same, fun roomy more => ?_⟩
  · exact deliver_of_watch (by rw [course])
  · refine watch_of_roomy (room + 1) more (.dispatch event) host ?_
    simpa [Roomy, calls, Incident.roomy, roomyAll, lacksRoom] using roomy

/-- Remembers the bytes of every event.  Before it does so with an event of two bytes, it has a
longer one delivered on the same channel and takes the handler from the channel; it breaks off on
the longer one, and catches that. -/
def intrusive : EventHandler (List Bytes) :=
  .mk none fun event =>
    if event.payload.length = 2 then
      .ask (.dispatch { event with payload := [9, 9, 9] }) fun _ =>
        .ask (.unregister event.channel) fun _ =>
          .remember (event.payload :: ·) (.answer true)
    else .remember (event.payload :: ·) (.raise .wordless)

/-- A handler that interferes with its own channel, and catches what breaks off there, still has its
own bytes afterwards. -/
theorem exact_of_intrusion : ∃ host : Host (List Bytes), ∃ event within answer after,
    host.lookup event.channel = .ok intrusive ∧ event.payload.length ≤ maxPayload ∧
      Exact 4 event intrusive host within answer after ∧ answer = .ok true ∧
      after.memory = [[1, 2], [9, 9, 9]] ∧ after.isOpen event.channel = false := by
  let host : Host (List Bytes) :=
    (({ memory := [] } : Host (List Bytes)).register ⟨7⟩ intrusive).2
  have registered : host.lookup ⟨7⟩ = .ok intrusive := rfl
  have fits : [1, 2].length ≤ maxPayload := by decide
  obtain ⟨within, answer, after, exact⟩ : ∃ within answer after,
      Exact 4 ⟨⟨7⟩, .tx, [1, 2]⟩ intrusive host within answer after :=
    exact_of_registered 4 registered fits
  have comes : ((host.deliver (perform 4) ⟨⟨7⟩, .tx, [1, 2]⟩).1,
      (host.deliver (perform 4) ⟨⟨7⟩, .tx, [1, 2]⟩).2) = (answer.map .ok, after) := exact.answers
  obtain ⟨outcome, last⟩ := Prod.mk.inj comes
  refine ⟨host, _, within, answer, after, registered, fits, exact, ?_, ?_, ?_⟩
  · have handled : answer.map .ok = (.ok (.ok true) : Except Fault (Except Failure Bool)) :=
      outcome.symm
    cases answer with
    | error fault => cases handled
    | ok value =>
      obtain rfl := Except.ok.inj (Except.ok.inj handled)
      rfl
  · rw [← last]
    rfl
  · rw [← last]
    rfl

end CallbackFerry.Host
