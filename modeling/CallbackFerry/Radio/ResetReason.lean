import CallbackFerry.Text.Hex

/-!
# Why the device started

The first byte of a startup message says why the device was reset.
-/

namespace CallbackFerry

/-- Why the device was reset. -/
inductive ResetReason where
  | powerOn
  | suspend
  | sync
  | command
  | watchdog
  | resetPin
  /-- A reason without a name of its own. -/
  | unknown (byte : UInt8)
  deriving DecidableEq, Repr

namespace ResetReason

/-- The reason that a startup byte stands for: every byte has one. -/
def ofByte : UInt8 → ResetReason
  | 0x00 => .powerOn
  | 0x80 => .suspend
  | 0x40 => .sync
  | 0x20 => .command
  | 0x02 => .watchdog
  | 0x01 => .resetPin
  | byte => .unknown byte

/-- The identifier used in listings of values. -/
def identifier : ResetReason → String
  | .powerOn => "PowerOn"
  | .suspend => "Suspend"
  | .sync => "Sync"
  | .command => "Command"
  | .watchdog => "Watchdog"
  | .resetPin => "ResetPin"
  | .unknown byte => "Unknown(" ++ toString byte.toNat ++ ")"

/-- The name used in log lines. -/
def text : ResetReason → String
  | .powerOn => "RESET_POR"
  | .suspend => "RESET_SUSPEND"
  | .sync => "RESET_SYNC"
  | .command => "RESET_CMD"
  | .watchdog => "RESET_WDT"
  | .resetPin => "RESET_RST"
  | .unknown byte => "unknown reason " ++ Hex.code byte

end ResetReason
end CallbackFerry
