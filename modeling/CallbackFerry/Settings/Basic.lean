import CallbackFerry.Number.Binary64
import CallbackFerry.Radio.Channel
import CallbackFerry.Time

/-!
# Settings

What a user can set: how loud the log is, how the bridge waits and warns, what the simulated
drivers do, and which channels are opened with which handler.  Every part has a default.
-/

namespace CallbackFerry

/-- How the events of a channel are handled. -/
inductive HandlerKind where
  /-- Every event is commented on. -/
  | logging
  /-- Events are only counted. -/
  | counting
  deriving DecidableEq, Repr, Inhabited

namespace HandlerKind

/-- The name used in files. -/
def name : HandlerKind → String
  | .logging => "logging"
  | .counting => "counting"

/-- The identifier used in log lines. -/
def identifier : HandlerKind → String
  | .logging => "Logging"
  | .counting => "Counting"

/-- The kind that a name in a file stands for. -/
def ofName? : String → Option HandlerKind
  | "logging" => some .logging
  | "counting" => some .counting
  | _ => none

end HandlerKind

/-- A channel to open. -/
structure ChannelSettings where
  /-- Its number. -/
  number : UInt8
  /-- How its events are handled. -/
  kind : HandlerKind := .logging
  deriving DecidableEq, Repr, Inhabited

/-- The channel that the settings speak of. -/
def ChannelSettings.channel (settings : ChannelSettings) : Channel :=
  ⟨settings.number⟩

/-- The settings of the log. -/
structure LoggingSettings where
  /-- The least level that is shown. -/
  level : String := "info"
  deriving DecidableEq, Repr, Inhabited

/-- The settings of a bridge. -/
structure BridgeSettings where
  /-- The name of the dispatcher's thread. -/
  threadName : String := "callback-dispatcher"
  /-- How long a driver waits for a result, in milliseconds; for ever if absent. -/
  timeoutMillis : Option Nat := none
  /-- The backlog above which a warning is written. -/
  warnDepth : Nat := 64
  deriving DecidableEq, Repr, Inhabited

/-- How long a driver waits for a result. -/
def BridgeSettings.timeout (settings : BridgeSettings) : Option Span :=
  settings.timeoutMillis.map Span.ofMillis

/-- The settings of the simulated drivers. -/
structure DriverSettings where
  /-- How many driver threads there are. -/
  threads : Nat := 4
  /-- How many events each of them fires. -/
  eventsPerThread : Nat := 100
  /-- Every how many events one is replaced by a callback that breaks off; never if zero. -/
  faultEvery : Nat := 0
  /-- The share of events that go to a channel that is not open. -/
  unknownRatio : Binary64 := Binary64.ofDecimal false 5 (-2)
  /-- The pause between two events of one thread, in milliseconds. -/
  intervalMillis : Nat := 0
  deriving DecidableEq, Repr, Inhabited

/-- All settings. -/
structure Settings where
  /-- The log. -/
  logging : LoggingSettings := {}
  /-- The bridge. -/
  bridge : BridgeSettings := {}
  /-- The drivers. -/
  driver : DriverSettings := {}
  /-- The channels opened at the start. -/
  channels : List ChannelSettings := [⟨0, .logging⟩, ⟨1, .counting⟩]
  deriving DecidableEq, Repr, Inhabited

end CallbackFerry
