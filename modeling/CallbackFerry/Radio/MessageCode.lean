import CallbackFerry.Text.Hex

/-!
# Response message codes

A response to a command names the command by a one-byte code.  Codes without a name are kept as
they are.
-/

namespace CallbackFerry

/-- The command or message that a response is about. -/
inductive MessageCode where
  | version
  | responseEvent
  | unassignChannel
  | assignChannel
  | channelMesgPeriod
  | channelSearchTimeout
  | channelRadioFreq
  | networkKey
  | radioTxPower
  | systemReset
  | openChannel
  | closeChannel
  | request
  | broadcastData
  | acknowledgedData
  | burstData
  | channelIdMesg
  | channelStatus
  | capabilities
  | getSerialNum
  | startupMesg
  /-- A code without a name of its own. -/
  | unknown (code : UInt8)
  deriving DecidableEq, Repr

namespace MessageCode

/-- The reading of a byte: every byte has one. -/
def ofByte : UInt8 → MessageCode
  | 0x3E => .version
  | 0x40 => .responseEvent
  | 0x41 => .unassignChannel
  | 0x42 => .assignChannel
  | 0x43 => .channelMesgPeriod
  | 0x44 => .channelSearchTimeout
  | 0x45 => .channelRadioFreq
  | 0x46 => .networkKey
  | 0x47 => .radioTxPower
  | 0x4A => .systemReset
  | 0x4B => .openChannel
  | 0x4C => .closeChannel
  | 0x4D => .request
  | 0x4E => .broadcastData
  | 0x4F => .acknowledgedData
  | 0x50 => .burstData
  | 0x51 => .channelIdMesg
  | 0x52 => .channelStatus
  | 0x54 => .capabilities
  | 0x61 => .getSerialNum
  | 0x6F => .startupMesg
  | code => .unknown code

/-- The byte that stands for the code. -/
def toByte : MessageCode → UInt8
  | .version => 0x3E
  | .responseEvent => 0x40
  | .unassignChannel => 0x41
  | .assignChannel => 0x42
  | .channelMesgPeriod => 0x43
  | .channelSearchTimeout => 0x44
  | .channelRadioFreq => 0x45
  | .networkKey => 0x46
  | .radioTxPower => 0x47
  | .systemReset => 0x4A
  | .openChannel => 0x4B
  | .closeChannel => 0x4C
  | .request => 0x4D
  | .broadcastData => 0x4E
  | .acknowledgedData => 0x4F
  | .burstData => 0x50
  | .channelIdMesg => 0x51
  | .channelStatus => 0x52
  | .capabilities => 0x54
  | .getSerialNum => 0x61
  | .startupMesg => 0x6F
  | .unknown code => code

/-- The short lowercase name used in log lines. -/
def label : MessageCode → String
  | .version => "version"
  | .responseEvent => "response_event"
  | .unassignChannel => "unassign_channel"
  | .assignChannel => "assign_channel"
  | .channelMesgPeriod => "channel_mesg_period"
  | .channelSearchTimeout => "channel_search_timeout"
  | .channelRadioFreq => "channel_radio_freq"
  | .networkKey => "network_key"
  | .radioTxPower => "radio_tx_power"
  | .systemReset => "system_reset"
  | .openChannel => "open_channel"
  | .closeChannel => "close_channel"
  | .request => "request"
  | .broadcastData => "broadcast_data"
  | .acknowledgedData => "acknowledged_data"
  | .burstData => "burst_data"
  | .channelIdMesg => "channel_id"
  | .channelStatus => "channel_status"
  | .capabilities => "capabilities"
  | .getSerialNum => "get_serial_num"
  | .startupMesg => "startup_mesg"
  | .unknown _ => "unknown"

/-- The identifier used in listings of values; an unknown code shows its number. -/
def identifier : MessageCode → String
  | .version => "Version"
  | .responseEvent => "ResponseEvent"
  | .unassignChannel => "UnassignChannel"
  | .assignChannel => "AssignChannel"
  | .channelMesgPeriod => "ChannelMesgPeriod"
  | .channelSearchTimeout => "ChannelSearchTimeout"
  | .channelRadioFreq => "ChannelRadioFreq"
  | .networkKey => "NetworkKey"
  | .radioTxPower => "RadioTxPower"
  | .systemReset => "SystemReset"
  | .openChannel => "OpenChannel"
  | .closeChannel => "CloseChannel"
  | .request => "Request"
  | .broadcastData => "BroadcastData"
  | .acknowledgedData => "AcknowledgedData"
  | .burstData => "BurstData"
  | .channelIdMesg => "ChannelIdMesg"
  | .channelStatus => "ChannelStatus"
  | .capabilities => "Capabilities"
  | .getSerialNum => "GetSerialNum"
  | .startupMesg => "StartupMesg"
  | .unknown code => "Unknown(" ++ toString code.toNat ++ ")"

/-- The label followed by the code in hexadecimal. -/
def text (code : MessageCode) : String :=
  code.label ++ " (" ++ Hex.code code.toByte ++ ")"

/-- Reading the byte of a code that was read gives that code again. -/
theorem toByte_ofByte (byte : UInt8) : (ofByte byte).toByte = byte := by
  unfold ofByte
  split <;> rfl

end MessageCode
end CallbackFerry
