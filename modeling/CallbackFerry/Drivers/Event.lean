import CallbackFerry.Failure
import CallbackFerry.Number.Binary64

/-!
# Random channel events

A simulated driver fires events of a fixed mix of kinds at random channels.  What chance decides
about one event is a `Chance`, a handful of numbers of which only the remainders by the number of
choices count; everything else follows from them.

Most events go to channels that are open; a set share of them goes to other channels that the radio
can address, as far as there are both.
-/

namespace CallbackFerry

/-- What chance decides about one event. -/
structure Chance where
  /-- Decides whether the event goes to a channel that is not open. -/
  stray : Nat
  /-- Decides the channel. -/
  channel : Nat
  /-- Decides the kind of event. -/
  kind : Nat
  /-- Decides the length of a data payload. -/
  length : Nat
  /-- Decides the bytes of a data payload. -/
  byte : Nat → UInt8
  /-- Decides the sequence number of a burst packet. -/
  sequence : Nat

namespace RandomEvent

/-- The kinds of events that are fired, each as often as it stands here. -/
def mix : List EventCode :=
  [.rxBroadcast, .rxBroadcast, .rxAcknowledged, .rxBurstPacket, .tx, .rxFail, .rxSearchTimeout]

/-- One of the members of a list; none if it is empty. -/
def pick {α : Type} (choices : List α) (number : Nat) : Option α :=
  choices[number % choices.length]?

/-- The channels the radio can address that are not open. -/
def closedChannels (opened : List Channel) : List Channel :=
  Channel.all.filter fun channel => !opened.contains channel

/-- How many equally likely numbers decide whether an event strays. -/
def strayBound : Nat := Nat.pow 2 64

/-- Whether an event goes to a channel that is not open.  Where there is a choice, a ratio that is
no share of a whole breaks the driver off. -/
def strays (opened closed : List Channel) (ratio : Binary64) (chance : Chance) :
    Except Fault Bool :=
  if closed.isEmpty then .ok false
  else if opened.isEmpty then .ok true
  else if ratio.isProbability then .ok (ratio.covers (chance.stray % strayBound) strayBound)
  else .error (.message "the ratio is no probability")

/-- The payload of an event: its own code, or random data of one byte or more.  The first byte of a
burst packet names the channel. -/
def payload (channel : Channel) (code : EventCode) (chance : Chance) : Bytes :=
  if !code.isData then [code.toByte]
  else
    let data := (List.range (chance.length % maxPayload + 1)).map chance.byte
    match code.isBurst, data with
    | true, _ :: rest =>
      Burst.header channel.number (UInt8.ofNat (chance.sequence % 8)) :: rest
    | _, _ => data

/-- The event that chance decides on, when these channels are open. -/
def fire (opened : List Channel) (ratio : Binary64) (chance : Chance) :
    Except Fault ChannelEvent :=
  let closed := closedChannels opened
  match strays opened closed ratio chance with
  | .error fault => .error fault
  | .ok stray =>
    match pick (if stray then closed else opened) chance.channel, pick mix chance.kind with
    | some channel, some code => .ok ⟨channel, code, payload channel code chance⟩
    | _, _ => .error (.message "there is no channel to choose")

end RandomEvent
end CallbackFerry
