import CallbackFerry.Host.Acts
import CallbackFerry.Settings.Basic

/-!
# The device in the host

A device knows which channels to open and how, and keeps account of what happens to it: events
delivered to each of its channels, resets, faults.  Its event handlers count, and comment if they
were set to.  Its response handler takes note of a reset: the host forgets all channels and the
device opens its own again.

The account lives in the handlers' memory, at a `Place` of it, so one host may hold several
devices.
-/

namespace CallbackFerry

/-- The account of a device. -/
structure Device where
  /-- The channels to open. -/
  channels : List ChannelSettings := []
  /-- How many events were delivered on each channel. -/
  delivered : ChannelMap Nat := .empty
  /-- How often the device was reset. -/
  resets : Nat := 0
  /-- How many faults were seen in the host. -/
  faults : Nat := 0
  deriving Repr, Inhabited

namespace Device

/-- Counts an event on a channel. -/
def recordEvent (channel : Channel) (device : Device) : Device :=
  { device with
    delivered :=
      device.delivered.insert channel ((device.delivered.get? channel).getD 0 + 1) }

/-- Counts a reset. -/
def recordReset (device : Device) : Device :=
  { device with resets := device.resets + 1 }

/-- Counts a fault. -/
def recordFault (device : Device) : Device :=
  { device with faults := device.faults + 1 }

/-- The events delivered on all channels together. -/
def total (device : Device) : Nat :=
  device.delivered.pairs.foldr (fun pair sum => pair.2 + sum) 0

end Device

/-- A place in a memory where a device's account is kept. -/
structure Place (σ : Type) where
  /-- Reads the account. -/
  read : σ → Device
  /-- Writes the account. -/
  write : Device → σ → σ
  /-- What was written is read. -/
  read_write : ∀ device memory, read (write device memory) = device

/-- Changes the account at a place. -/
def Place.update {σ : Type} (place : Place σ) (change : Device → Device) (memory : σ) : σ :=
  place.write (change (place.read memory)) memory

/-- The place in a memory that holds nothing but the account. -/
def Place.whole : Place Device where
  read := id
  write device _ := device
  read_write _ _ := rfl

namespace Device

variable {σ : Type}

/-- A line spoken by the device. -/
def line (level : Level) (message : String) : LogLine :=
  { level := level, component := .device, message := message }

/-- The handler of a channel set so: it counts, and comments if set to. -/
def handler (place : Place σ) (settings : ChannelSettings) : EventHandler σ :=
  .mk none fun event =>
    .remember (place.update (recordEvent event.channel))
      (match settings.kind with
        | .logging =>
          .say (Commentary.onEvent event.channel event.code event.payload) (.answer true)
        | .counting => .answer true)

/-- The number of channels in a reply. -/
def countOf : Reply → Nat
  | .count channels => channels
  | _ => 0

/-- Registers a handler for every channel set, then goes on. -/
def opening (place : Place σ) : List ChannelSettings → Reaction σ → Reaction σ
  | [], next =>
    .request .size fun reply =>
      .say (line .info (toString (countOf reply) ++ " channel(s) open")) next
  | settings :: rest, next =>
    .request (.register settings.channel (handler place settings)) fun _ =>
      .say
        (line .debug ("Opened channel " ++ settings.channel.text ++ " ("
          ++ settings.kind.identifier ++ " handler)"))
        (opening place rest next)

/-- The greatest number of resets that can be counted. -/
def maxResets : Nat := Nat.pow 2 32 - 1

/-- The response handler: a reset reopens the channels, anything else is commented on. -/
def responder (place : Place σ) : ResponseHandler σ :=
  .mk fun response =>
    match response.code with
    | .systemReset =>
      .recall fun memory =>
        if (place.read memory).resets < maxResets then
          .remember (place.update recordReset)
            (.request .reset fun _ => opening place (place.read memory).channels (.answer true))
        else .raise (.message "attempt to add with overflow")
    | code => .say (Commentary.onResponse response.channel code response.payload) (.answer true)

/-- The host with the device's channels open. -/
def openIn (place : Place σ) (host : Host σ) : Host σ :=
  (host.carryOut (opening place (place.read host.memory).channels (.answer true))).2

/-- The host with the device's response handler installed. -/
def installIn (place : Place σ) (host : Host σ) : Host σ :=
  host.setResponder (responder place)

end Device
end CallbackFerry
