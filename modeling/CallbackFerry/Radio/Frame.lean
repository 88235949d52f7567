import CallbackFerry.Radio.Channel
import CallbackFerry.Radio.EventCode
import CallbackFerry.Radio.MessageCode

/-!
# Decoded messages

A message from the device is either an event on one channel or a response to a command.  Its
payload is at most `maxPayload` bytes long.  The checked constructors `ChannelEvent.checked` and
`Response.checked` refuse longer payloads; a frame built without them may carry any payload, and the
host checks again before it delivers one.
-/

namespace CallbackFerry

/-- The longest payload of a message. -/
def maxPayload : Nat := 41

/-- What can be wrong with a message. -/
inductive FrameError where
  /-- The payload is longer than the greatest length. -/
  | payloadTooLarge (size greatest : Nat)
  /-- The channel number is beyond the radio's reach. -/
  | invalidChannel (number : UInt8)
  deriving DecidableEq, Repr

/-- The wording of a message error. -/
def FrameError.message : FrameError → String
  | .payloadTooLarge size greatest =>
    "Payload too large: " ++ toString size ++ " bytes (max: " ++ toString greatest ++ ")"
  | .invalidChannel number =>
    "Invalid channel number: " ++ toString number.toNat ++ " (max: "
      ++ toString (maxChannels - 1) ++ ")"

/-- The channel of a number the radio can address. -/
def Channel.checked (number : UInt8) : Except FrameError Channel :=
  if (Channel.mk number).addressable then .ok ⟨number⟩ else .error (.invalidChannel number)

/-- An event on one channel. -/
structure ChannelEvent where
  /-- The channel it happened on. -/
  channel : Channel
  /-- What happened. -/
  code : EventCode
  /-- The bytes that came with it. -/
  payload : Bytes
  deriving DecidableEq, Repr

/-- A response to a command, meant for the device as a whole. -/
structure Response where
  /-- The channel it mentions. -/
  channel : Channel
  /-- The command it answers. -/
  code : MessageCode
  /-- The bytes that came with it. -/
  payload : Bytes
  deriving DecidableEq, Repr

/-- Refuses a payload that is too long. -/
def checkPayload (payload : Bytes) : Except FrameError Unit :=
  if maxPayload < payload.length then .error (.payloadTooLarge payload.length maxPayload)
  else .ok ()

/-- An event whose payload is not too long. -/
def ChannelEvent.checked (channel : Channel) (code : EventCode) (payload : Bytes) :
    Except FrameError ChannelEvent :=
  (checkPayload payload).map fun _ => ⟨channel, code, payload⟩

/-- A response whose payload is not too long. -/
def Response.checked (channel : Channel) (code : MessageCode) (payload : Bytes) :
    Except FrameError Response :=
  (checkPayload payload).map fun _ => ⟨channel, code, payload⟩

end CallbackFerry
