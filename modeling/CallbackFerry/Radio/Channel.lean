/-!
# Radio channels

A channel is named by a byte.  The radio can address thirty-two of them; larger numbers may still
be written down, since an event from the outside carries whatever byte it carries.  The first byte
of a burst packet holds a channel number in its five low bits and a sequence number in its three
high bits.
-/

namespace CallbackFerry

/-- The number of channels the radio can address. -/
def maxChannels : Nat := 32

/-- A channel, by its number. -/
structure Channel where
  /-- The number, addressable or not. -/
  number : UInt8
  deriving DecidableEq, Repr, Inhabited

namespace Channel

/-- The decimal text of the number. -/
def text (channel : Channel) : String :=
  toString channel.number.toNat

/-- Whether the radio can address the channel. -/
def addressable (channel : Channel) : Bool :=
  decide (channel.number.toNat < maxChannels)

/-- All channels the radio can address, in ascending order. -/
def all : List Channel :=
  (List.range maxChannels).map fun n => ⟨UInt8.ofNat n⟩

end Channel

namespace Burst

/-- The mask of the channel number in the first byte of a burst packet. -/
def channelMask : UInt8 := 0x1F

/-- The mask of the sequence number in the first byte of a burst packet. -/
def sequenceMask : UInt8 := 0xE0

/-- The channel number in the first byte of a burst packet. -/
def channel (first : UInt8) : UInt8 :=
  first &&& channelMask

/-- The sequence number in the first byte of a burst packet, of three bits. -/
def sequence (first : UInt8) : UInt8 :=
  (first &&& sequenceMask) >>> 5

/-- The first byte of a burst packet; only the low bits of both numbers count. -/
def header (channel sequence : UInt8) : UInt8 :=
  (sequence <<< 5) ||| (channel &&& channelMask)

end Burst
end CallbackFerry
