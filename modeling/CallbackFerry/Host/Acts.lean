import CallbackFerry.Host.Basic

/-!
# What the host can do

Each action of the host is a function on it.  Actions on the routing table come first; then the
delivery of messages, which runs handlers, and whose handlers may act on the host in turn.

Deliveries inside deliveries nest.  How deep they may nest is bounded by a number, the *room*; a
delivery without room left breaks off like any other fault, so `Host.perform` is total.
-/

namespace CallbackFerry.Host

variable {σ : Type}

/-! ### The routing table -/

/-- Gives a channel a handler and an empty staging buffer; also returns the handler it had. -/
def register (channel : Channel) (handler : EventHandler σ) (host : Host σ) :
    Option (EventHandler σ) × Host σ :=
  let line : LogLine :=
    { level := .debug
      component := .registry
      message := "Registered handler for channel " ++ channel.text }
  let entry : Entry σ := { handler := handler, stamp := host.nextStamp }
  ((host.routes.get? channel).map (·.handler),
    { host.write line with
      routes := host.routes.insert channel entry
      nextStamp := host.nextStamp + 1
      fresh := by
        intro other kept found
        rw [ChannelMap.get?_insert] at found
        split at found
        · obtain rfl := Option.some.inj found
          exact Nat.lt_succ_self _
        · exact Nat.lt_succ_of_lt (host.fresh other kept found) })

/-- The handler of a channel. -/
def lookup (channel : Channel) (host : Host σ) : Except Failure (EventHandler σ) :=
  match host.routes.get? channel with
  | some entry => .ok entry.handler
  | none => .error (.unknownChannel channel)

/-- Takes the handler from a channel; also returns it. -/
def unregister (channel : Channel) (host : Host σ) : Option (EventHandler σ) × Host σ :=
  match host.routes.get? channel with
  | some entry =>
    let line : LogLine :=
      { level := .debug
        component := .registry
        message := "Unregistered channel " ++ channel.text }
    (some entry.handler,
      { host.write line with
        routes := host.routes.erase channel
        fresh := by
          intro other kept found
          rw [ChannelMap.get?_erase] at found
          split at found
          · cases found
          · exact host.fresh other kept found })
  | none => (none, host)

/-- Takes the handlers from all channels; also returns how many there were. -/
def clearAll (host : Host σ) : Nat × Host σ :=
  (host.routes.size,
    { host with
      routes := .empty
      fresh := by
        intro channel entry found
        cases found })

/-- Whether a channel has a handler. -/
def isOpen (channel : Channel) (host : Host σ) : Bool :=
  host.routes.contains channel

/-- How many channels have handlers. -/
def size (host : Host σ) : Nat :=
  host.routes.size

/-- Whether no channel has a handler. -/
def isEmpty (host : Host σ) : Bool :=
  host.routes.isEmpty

/-- The channels that have handlers, in ascending order. -/
def channels (host : Host σ) : List Channel :=
  host.routes.channels

/-- Takes the handlers from all channels and says why. -/
def clearBecause (reason : String) (host : Host σ) : Host σ :=
  let (cleared, host) := host.clearAll
  host.write
    { level := .info
      component := .host
      message := reason ++ ", cleared " ++ toString cleared ++ " channel(s)" }

/-- The device was reset and has discarded every channel. -/
def reset (host : Host σ) : Host σ :=
  host.clearBecause "Device reset"

/-- The connection to the device was closed, so no channel is valid. -/
def close (host : Host σ) : Host σ :=
  host.clearBecause "Device connection closed"

/-- Replaces the response handler. -/
def setResponder (handler : ResponseHandler σ) (host : Host σ) : Host σ :=
  { host with responder := handler }

/-! ### Delivery -/

end Host

variable {σ : Type}

/-- A way of having the host act. -/
abbrev Performer (σ : Type) := Action σ → Host σ → Except Fault Reply × Host σ

/-- Carries a reaction out.  A fault leaves the host as it is then. -/
def Reaction.run (perform : Performer σ) : Reaction σ → Host σ → Except Fault Bool × Host σ
  | .answer handled, host => (.ok handled, host)
  | .raise fault, host => (.error fault, host)
  | .recall next, host => (next host.memory).run perform host
  | .remember change next, host => next.run perform (host.remember change)
  | .say line next, host => next.run perform (host.write line)
  | .ask action next, host =>
    let (outcome, host) := perform action host
    (next outcome).run perform host

namespace Host

/-- Puts bytes into the staging buffer of a channel's entry, if that entry is still there. -/
def restage (channel : Channel) (stamp : Nat) (bytes : Bytes) (host : Host σ) : Host σ :=
  { host with
    routes := host.routes.modify channel fun entry =>
      if entry.stamp = stamp then { entry with staged := bytes } else entry
    fresh := by
      intro other entry found
      rw [ChannelMap.get?_modify] at found
      split at found
      · obtain ⟨kept, here, rfl⟩ := Option.map_eq_some_iff.mp found
        split <;> exact host.fresh other kept here
      · exact host.fresh other entry found }

/-- Delivers an event to the handler that its channel has now.  The payload is staged in the
entry's buffer, the handler gets the staged bytes, and the buffer is blanked when the handler
answers.  No handler is called for an unknown channel or a payload that does not fit. -/
def deliver (perform : Performer σ) (event : ChannelEvent) (host : Host σ) :
    Except Fault (Except Failure Bool) × Host σ :=
  match host.routes.get? event.channel with
  | none => (.ok (.error (.unknownChannel event.channel)), host)
  | some entry =>
    match checkPayload event.payload with
    | .error cause => (.ok (.error (.protocol cause)), host)
    | .ok () =>
      let length := event.payload.length
      let staged := event.payload ++ entry.staged.drop length
      let shown := { event with payload := staged.take length }
      let host := host.restage event.channel entry.stamp staged
      match (entry.handler.react shown).run perform host with
      | (.ok handled, host) =>
        (.ok (.ok handled), host.restage event.channel entry.stamp blankStage)
      | (.error fault, host) => (.error fault, host)

/-- Delivers a response to the response handler that is installed now. -/
def deliverResponse (perform : Performer σ) (response : Response) (host : Host σ) :
    Except Fault Bool × Host σ :=
  (host.responder.react response).run perform host

/-- What is left behind by a delivery without room. -/
def noRoom : Fault := .message "deliveries nested too deeply"

/-- Carries an action out.  A delivery uses up one unit of room. -/
def perform : (room : Nat) → Performer σ
  | _, .register channel handler, host =>
    let (replaced, host) := host.register channel handler
    (.ok (.handler (replaced.map (·.label))), host)
  | _, .lookup channel, host =>
    (.ok (.handler ((host.lookup channel).toOption.map (·.label))), host)
  | _, .unregister channel, host =>
    let (removed, host) := host.unregister channel
    (.ok (.handler (removed.map (·.label))), host)
  | _, .clearAll, host =>
    let (cleared, host) := host.clearAll
    (.ok (.count cleared), host)
  | _, .isOpen channel, host => (.ok (.isOpen (host.isOpen channel)), host)
  | _, .size, host => (.ok (.count host.size), host)
  | _, .isEmpty, host => (.ok (.isEmpty host.isEmpty), host)
  | _, .channels, host => (.ok (.channels host.channels), host)
  | _, .setResponder handler, host => (.ok .done, host.setResponder handler)
  | _, .reset, host => (.ok .done, host.reset)
  | _, .close, host => (.ok .done, host.close)
  | 0, .dispatch _, host => (.error noRoom, host)
  | 0, .respond _, host => (.error noRoom, host)
  | room + 1, .dispatch event, host =>
    match host.deliver (perform room) event with
    | (.ok answer, host) => (.ok (.delivered answer), host)
    | (.error fault, host) => (.error fault, host)
  | room + 1, .respond response, host =>
    match host.deliverResponse (perform room) response with
    | (.ok answer, host) => (.ok (.responded answer), host)
    | (.error fault, host) => (.error fault, host)

/-- How deep deliveries may nest. -/
def depth : Nat := 1024

/-- Carries a reaction out, with all the room there is. -/
def carryOut (reaction : Reaction σ) (host : Host σ) : Except Fault Bool × Host σ :=
  reaction.run (perform depth) host

/-- Delivers an event, with all the room there is unless told otherwise. -/
def dispatch (event : ChannelEvent) (host : Host σ) (room : Nat := depth) :
    Except Fault (Except Failure Bool) × Host σ :=
  host.deliver (perform room) event

/-- Delivers a response, with all the room there is. -/
def respond (response : Response) (host : Host σ) : Except Fault Bool × Host σ :=
  host.deliverResponse (perform depth) response

end Host
end CallbackFerry
