import CallbackFerry.Failure
import CallbackFerry.Number.Shortest
import CallbackFerry.Settings.Basic
import CallbackFerry.Text.Blank

/-!
# Which settings are usable

The rules are tried in a fixed order and the first one broken is reported: the level, the bridge
(its thread name, its timeout, its warning depth), the number of threads, the ratio, then the
channels from the first to the last.  `Settings.flaw?` finds the first flaw; settings without a
flaw are usable.
-/

namespace CallbackFerry

/-- What can be wrong with the settings of a bridge. -/
inductive BridgeFlaw where
  /-- The thread name is blank. -/
  | blankThreadName
  /-- The timeout is zero. -/
  | zeroTimeout
  /-- The warning depth is zero. -/
  | zeroWarnDepth
  deriving DecidableEq, Repr

/-- What a driver or a caller is told about a flaw in the bridge's settings. -/
def BridgeFlaw.failure : BridgeFlaw → Failure
  | .blankThreadName => .config "dispatcher_thread_name must not be empty"
  | .zeroTimeout => .config "handoff_timeout_ms must be greater than 0 (omit it to wait forever)"
  | .zeroWarnDepth => .config "queue_warn_depth must be greater than 0"

/-- The first flaw in the settings of a bridge. -/
def BridgeSettings.flaw? (settings : BridgeSettings) : Option BridgeFlaw :=
  if isBlank settings.threadName then some .blankThreadName
  else if settings.timeoutMillis = some 0 then some .zeroTimeout
  else if settings.warnDepth = 0 then some .zeroWarnDepth
  else none

/-- What can be wrong with the settings. -/
inductive SettingsFlaw where
  /-- No such level. -/
  | unknownLevel (level : String)
  /-- The bridge cannot be used. -/
  | bridge (flaw : BridgeFlaw)
  /-- There are no threads. -/
  | noThreads
  /-- The ratio is no share of a whole. -/
  | ratioOutOfRange (ratio : Binary64)
  /-- The radio cannot address the channel. -/
  | channelOutOfRange (number : UInt8)
  /-- The channel occurs before. -/
  | channelRepeated (number : UInt8)
  deriving DecidableEq, Repr

/-- The levels that may be set. -/
def LoggingSettings.levels : List String :=
  ["trace", "debug", "info", "warn", "error"]

namespace SettingsFlaw

/-- The messages about a flaw, from the outermost to the innermost. -/
def chain : SettingsFlaw → List String
  | .unknownLevel level =>
    ["Invalid log level '" ++ level ++ "', must be one of: "
      ++ ", ".intercalate LoggingSettings.levels]
  | .bridge flaw => ["Invalid [bridge] settings", flaw.failure.message]
  | .noThreads => ["driver.threads must be at least 1"]
  | .ratioOutOfRange ratio =>
    ["driver.unknown_channel_ratio must be between 0.0 and 1.0, got " ++ ratio.text]
  | .channelOutOfRange number =>
    ["Invalid channel " ++ toString number.toNat ++ ", must be below " ++ toString maxChannels]
  | .channelRepeated number =>
    ["Channel " ++ toString number.toNat ++ " is configured twice"]

end SettingsFlaw

/-- The first flaw in a list of channels, when the channels in `seen` came before it. -/
def firstChannelFlaw? : (seen : List UInt8) → List ChannelSettings → Option SettingsFlaw
  | _, [] => none
  | seen, settings :: rest =>
    if !settings.channel.addressable then some (.channelOutOfRange settings.number)
    else if settings.number ∈ seen then some (.channelRepeated settings.number)
    else firstChannelFlaw? (settings.number :: seen) rest

/-- The first flaw in the settings. -/
def Settings.flaw? (settings : Settings) : Option SettingsFlaw :=
  if settings.logging.level ∉ LoggingSettings.levels then
    some (.unknownLevel settings.logging.level)
  else match settings.bridge.flaw? with
    | some flaw => some (.bridge flaw)
    | none =>
      if settings.driver.threads = 0 then some .noThreads
      else if !settings.driver.unknownRatio.isProbability then
        some (.ratioOutOfRange settings.driver.unknownRatio)
      else firstChannelFlaw? [] settings.channels

end CallbackFerry
