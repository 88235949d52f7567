import CallbackFerry.Journal
import CallbackFerry.Radio.Frame
import CallbackFerry.Radio.Summary

/-!
# Commenting on messages

The default handlers accept every message and write one line about it.  `Commentary.onEvent` gives
the line for a channel event, by kind; `Commentary.onResponse` the line for a response, from its
summary.
-/

namespace CallbackFerry.Commentary

/-- A line spoken by the default handlers. -/
def say (level : Level) (message : String) : LogLine :=
  { level := level, component := .handlers, message := message }

/-- The line about an event on a channel. -/
def onEvent (channel : Channel) (code : EventCode) (data : Bytes) : LogLine :=
  let c := channel.text
  match code with
  | .tx => say .info s!"Broadcast message on channel {c} was transmitted"
  | .rxSearchTimeout => say .warn s!"Search timeout on channel {c}"
  | .rxFail | .transferRxFailed => say .warn s!"Receive failed on channel {c}"
  | .transferTxCompleted => say .info s!"Transfer completed on channel {c}"
  | .transferTxFailed => say .warn s!"Transfer failed on channel {c}"
  | .transferTxStart => say .info s!"Burst transfer started on channel {c}"
  | .channelClosed => say .warn s!"Channel {c} was closed"
  | .rxFailGoToSearch => say .warn s!"Channel {c} dropped; resume search"
  | .channelCollision => say .warn s!"Channel collision on channel {c}"
  | .rxBurstPacket | .rxExtBurstPacket | .rxFlagBurstPacket =>
    match data with
    | first :: rest =>
      say .info ("Burst on channel " ++ c ++ " (packet channel "
        ++ toString (Burst.channel first).toNat ++ "): seq "
        ++ toString (Burst.sequence first).toNat ++ " " ++ Hex.listing (rest.take 8))
    | [] => say .warn s!"Empty burst packet on channel {c}"
  | .rxBroadcast => say .info ("Broadcast on channel " ++ c ++ ": " ++ Hex.listing (data.take 8))
  | code =>
    say .debug ("Event on channel " ++ c ++ ": " ++ code.text ++ ": " ++ Hex.listing (data.take 4))

/-- The line about a response, from what it says. -/
def onSummary (channel : Channel) (data : Bytes) : Summary → LogLine
  | .version text => say .info ("ANT version " ++ text)
  | .startup reason => say .info ("Reset complete: " ++ reason.text)
  | .status command code =>
    if code = 0 then say .info ("Channel " ++ channel.text ++ ": " ++ command.text ++ " succeeded")
    else
      say .error ("Channel " ++ channel.text ++ ": " ++ command.text ++ " failed with status "
        ++ Hex.code code)
  | .other command =>
    say .debug ("Response for channel " ++ channel.text ++ ": " ++ command.text ++ ": "
      ++ Hex.listing (data.take 4))

/-- The line about a response. -/
def onResponse (channel : Channel) (code : MessageCode) (data : Bytes) : LogLine :=
  onSummary channel data (Summary.ofResponse code data)

end CallbackFerry.Commentary
