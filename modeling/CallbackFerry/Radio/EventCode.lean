import CallbackFerry.Text.Hex

/-!
# Channel event codes

The radio reports what happened on a channel with a one-byte code.  Codes without a name are kept
as they are, so a newer firmware never causes a failure to decode.
-/

namespace CallbackFerry

/-- What happened on a channel. -/
inductive EventCode where
  | rxSearchTimeout
  | rxFail
  | tx
  | transferRxFailed
  | transferTxCompleted
  | transferTxFailed
  | channelClosed
  | rxFailGoToSearch
  | channelCollision
  | transferTxStart
  | rxExtAcknowledged
  | rxExtBurstPacket
  | rxExtBroadcast
  | rxFlagAcknowledged
  | rxFlagBurstPacket
  | rxFlagBroadcast
  | rxAcknowledged
  | rxBurstPacket
  | rxBroadcast
  /-- A code without a name of its own. -/
  | unknown (code : UInt8)
  deriving DecidableEq, Repr

namespace EventCode

/-- The reading of a byte: every byte has one. -/
def ofByte : UInt8 → EventCode
  | 0x01 => .rxSearchTimeout
  | 0x02 => .rxFail
  | 0x03 => .tx
  | 0x04 => .transferRxFailed
  | 0x05 => .transferTxCompleted
  | 0x06 => .transferTxFailed
  | 0x07 => .channelClosed
  | 0x08 => .rxFailGoToSearch
  | 0x09 => .channelCollision
  | 0x0A => .transferTxStart
  | 0x5D => .rxExtAcknowledged
  | 0x5E => .rxExtBurstPacket
  | 0x5F => .rxExtBroadcast
  | 0x9A => .rxFlagAcknowledged
  | 0x9B => .rxFlagBurstPacket
  | 0x9C => .rxFlagBroadcast
  | 0x9D => .rxAcknowledged
  | 0x9E => .rxBurstPacket
  | 0x9F => .rxBroadcast
  | code => .unknown code

/-- The byte that stands for the code. -/
def toByte : EventCode → UInt8
  | .rxSearchTimeout => 0x01
  | .rxFail => 0x02
  | .tx => 0x03
  | .transferRxFailed => 0x04
  | .transferTxCompleted => 0x05
  | .transferTxFailed => 0x06
  | .channelClosed => 0x07
  | .rxFailGoToSearch => 0x08
  | .channelCollision => 0x09
  | .transferTxStart => 0x0A
  | .rxExtAcknowledged => 0x5D
  | .rxExtBurstPacket => 0x5E
  | .rxExtBroadcast => 0x5F
  | .rxFlagAcknowledged => 0x9A
  | .rxFlagBurstPacket => 0x9B
  | .rxFlagBroadcast => 0x9C
  | .rxAcknowledged => 0x9D
  | .rxBurstPacket => 0x9E
  | .rxBroadcast => 0x9F
  | .unknown code => code

/-- The short lowercase name used in log lines. -/
def label : EventCode → String
  | .rxSearchTimeout => "rx_search_timeout"
  | .rxFail => "rx_fail"
  | .tx => "tx"
  | .transferRxFailed => "transfer_rx_failed"
  | .transferTxCompleted => "transfer_tx_completed"
  | .transferTxFailed => "transfer_tx_failed"
  | .channelClosed => "channel_closed"
  | .rxFailGoToSearch => "rx_fail_go_to_search"
  | .channelCollision => "channel_collision"
  | .transferTxStart => "transfer_tx_start"
  | .rxExtAcknowledged => "rx_ext_acknowledged"
  | .rxExtBurstPacket => "rx_ext_burst_packet"
  | .rxExtBroadcast => "rx_ext_broadcast"
  | .rxFlagAcknowledged => "rx_flag_acknowledged"
  | .rxFlagBurstPacket => "rx_flag_burst_packet"
  | .rxFlagBroadcast => "rx_flag_broadcast"
  | .rxAcknowledged => "rx_acknowledged"
  | .rxBurstPacket => "rx_burst_packet"
  | .rxBroadcast => "rx_broadcast"
  | .unknown _ => "unknown"

/-- The identifier used in listings of values; an unknown code shows its number. -/
def identifier : EventCode → String
  | .rxSearchTimeout => "RxSearchTimeout"
  | .rxFail => "RxFail"
  | .tx => "Tx"
  | .transferRxFailed => "TransferRxFailed"
  | .transferTxCompleted => "TransferTxCompleted"
  | .transferTxFailed => "TransferTxFailed"
  | .channelClosed => "ChannelClosed"
  | .rxFailGoToSearch => "RxFailGoToSearch"
  | .channelCollision => "ChannelCollision"
  | .transferTxStart => "TransferTxStart"
  | .rxExtAcknowledged => "RxExtAcknowledged"
  | .rxExtBurstPacket => "RxExtBurstPacket"
  | .rxExtBroadcast => "RxExtBroadcast"
  | .rxFlagAcknowledged => "RxFlagAcknowledged"
  | .rxFlagBurstPacket => "RxFlagBurstPacket"
  | .rxFlagBroadcast => "RxFlagBroadcast"
  | .rxAcknowledged => "RxAcknowledged"
  | .rxBurstPacket => "RxBurstPacket"
  | .rxBroadcast => "RxBroadcast"
  | .unknown code => "Unknown(" ++ toString code.toNat ++ ")"

/-- The label followed by the code in hexadecimal. -/
def text (code : EventCode) : String :=
  code.label ++ " (" ++ Hex.code code.toByte ++ ")"

/-- Whether the event carries received data, as opposed to a bare status. -/
def isData : EventCode → Bool
  | .rxExtAcknowledged | .rxExtBurstPacket | .rxExtBroadcast
  | .rxFlagAcknowledged | .rxFlagBurstPacket | .rxFlagBroadcast
  | .rxAcknowledged | .rxBurstPacket | .rxBroadcast => true
  | _ => false

/-- Whether the event is a burst packet of any flavour. -/
def isBurst : EventCode → Bool
  | .rxBurstPacket | .rxExtBurstPacket | .rxFlagBurstPacket => true
  | _ => false

/-- Reading the byte of a code that was read gives that code again. -/
theorem toByte_ofByte (byte : UInt8) : (ofByte byte).toByte = byte := by
  unfold ofByte
  split <;> rfl

end EventCode
end CallbackFerry
