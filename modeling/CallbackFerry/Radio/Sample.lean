import CallbackFerry.Radio.Frame

/-!
# Sample messages

Messages with a recognizable payload, for rehearsals of the host.
-/

namespace CallbackFerry.Sample

/-- A payload of the given size that counts up from zero and starts over after 255. -/
def payload (size : Nat) : Bytes :=
  (List.range size).map UInt8.ofNat

/-- A channel event with a counting payload; a size beyond the greatest payload has no event. -/
def channelEvent (channel : Channel) (code : EventCode) (size : Nat) : Option ChannelEvent :=
  if size ≤ maxPayload then some ⟨channel, code, payload size⟩ else none

/-- The complaint about a size without an event. -/
def oversizeMessage (size : Nat) : String :=
  "mock payload too large: " ++ toString size

/-- A burst packet: a header byte with the sequence number in its high bits, then the data. -/
def burstEvent (channel : Channel) (sequence : UInt8) (data : Bytes) : ChannelEvent :=
  ⟨channel, .rxBurstPacket, Burst.header channel.number sequence :: data⟩

/-- A response without a payload. -/
def response (channel : Channel) (code : MessageCode) : Response :=
  ⟨channel, code, []⟩

end CallbackFerry.Sample
