import CallbackFerry.Number.Binary64
import CallbackFerry.Settings.Basic

/-!
# Settings from plain data

Settings arrive as plain data, read from one of two formats.  `Value` is that data, the same for
both; `Settings.ofValue?` and its parts say which data are settings, and `Settings.value` gives
settings as data.  Records may be given by name
or, as a list, by position; a field that is not given takes its default, and one that the program
does not know is passed over.  No text, truth value or null ever stands for a number.
-/

namespace CallbackFerry

/-- Plain data, as a configuration format knows it. -/
inductive Value where
  /-- Nothing. -/
  | null
  /-- A truth value. -/
  | boolean (value : Bool)
  /-- A whole number. -/
  | whole (number : Int)
  /-- A number with a fraction. -/
  | fraction (number : Binary64)
  /-- A text. -/
  | text (content : String)
  /-- A date, a time, or both.  No setting is one, so that it is one is all that is kept. -/
  | moment
  /-- Values in order. -/
  | list (items : List Value)
  /-- Named values, no name twice. -/
  | table (entries : List (String × Value))
  deriving Inhabited

/-- Where plain data come from. -/
inductive Format where
  | json
  | toml
  deriving DecidableEq, Repr

namespace Value

/-! ### Single values -/

/-- A whole number from zero up to `bound`, exclusive. -/
def nat? (bound : Nat) : Value → Option Nat
  | .whole number => if 0 ≤ number ∧ number < bound then some number.toNat else none
  | _ => none

/-- A byte. -/
def byte? (value : Value) : Option UInt8 :=
  (value.nat? 256).map UInt8.ofNat

/-- A number of 64 bits. -/
def nat64? (value : Value) : Option Nat :=
  value.nat? (Nat.pow 2 64)

/-- A number of any kind, rounded if it is too long. -/
def binary64? : Value → Option Binary64
  | .whole number => some (.ofInt number)
  | .fraction number => some number
  | _ => none

/-- A text. -/
def text? : Value → Option String
  | .text content => some content
  | _ => none

/-- Whether a value says nothing beyond the name it belongs to. -/
def isEmpty (format : Format) : Value → Bool
  | .null => format == .json
  | .list items => format == .toml && items.isEmpty
  | .table entries => format == .toml && entries.isEmpty
  | _ => false

/-- A kind of handler: its name, or a table of that single name with nothing behind it. -/
def handlerKind? (format : Format) : Value → Option HandlerKind
  | .text name => HandlerKind.ofName? name
  | .table [(name, value)] => if value.isEmpty format then HandlerKind.ofName? name else none
  | _ => none

/-! ### Records -/

/-- The fields of a record with these names.  A list gives them by position; in JSON it must not
be longer than the record.  A date has no field that any record knows. -/
def fields? (format : Format) (names : List String) : Value → Option (List (String × Value))
  | .table entries => some entries
  | .list items =>
    if format = .json ∧ names.length < items.length then none else some (names.zip items)
  | .moment => some []
  | _ => none

/-- One field: absent it takes the default, and without a default the record is refused. -/
def field? {α : Type} (fields : List (String × Value)) (name : String) (absent : Option α)
    (read : Value → Option α) : Option α :=
  match fields.lookup name with
  | some value => read value
  | none => absent

end Value

/-- The settings of the log that the data stand for. -/
def LoggingSettings.ofValue? (format : Format) (value : Value) : Option LoggingSettings := do
  let fields ← value.fields? format ["level"]
  let usual : LoggingSettings := {}
  return { level := ← Value.field? fields "level" (some usual.level) Value.text? }

/-- The settings of a bridge that the data stand for; a null timeout is none. -/
def BridgeSettings.ofValue? (format : Format) (value : Value) : Option BridgeSettings := do
  let fields ← value.fields? format
    ["dispatcher_thread_name", "handoff_timeout_ms", "queue_warn_depth"]
  let usual : BridgeSettings := {}
  let timeout? : Value → Option (Option Nat)
    | .null => some none
    | given => given.nat64?.map some
  return {
    threadName :=
      ← Value.field? fields "dispatcher_thread_name" (some usual.threadName) Value.text?
    timeoutMillis :=
      ← Value.field? fields "handoff_timeout_ms" (some usual.timeoutMillis) timeout?
    warnDepth := ← Value.field? fields "queue_warn_depth" (some usual.warnDepth) Value.nat64? }

/-- The settings of the drivers that the data stand for. -/
def DriverSettings.ofValue? (format : Format) (value : Value) : Option DriverSettings := do
  let fields ← value.fields? format
    ["threads", "events_per_thread", "fault_every", "unknown_channel_ratio", "event_interval_ms"]
  let usual : DriverSettings := {}
  return {
    threads := ← Value.field? fields "threads" (some usual.threads) Value.nat64?
    eventsPerThread :=
      ← Value.field? fields "events_per_thread" (some usual.eventsPerThread) Value.nat64?
    faultEvery := ← Value.field? fields "fault_every" (some usual.faultEvery) Value.nat64?
    unknownRatio :=
      ← Value.field? fields "unknown_channel_ratio" (some usual.unknownRatio) Value.binary64?
    intervalMillis :=
      ← Value.field? fields "event_interval_ms" (some usual.intervalMillis) Value.nat64? }

/-- The channel to open that the data stand for.  Its number must be given. -/
def ChannelSettings.ofValue? (format : Format) (value : Value) : Option ChannelSettings := do
  let fields ← value.fields? format ["number", "handler"]
  return {
    number := ← Value.field? fields "number" none Value.byte?
    kind := ← Value.field? fields "handler" (some .logging) (Value.handlerKind? format) }

/-- The channels to open that the data stand for: a list, never a table. -/
def ChannelSettings.listOfValue? (format : Format) : Value → Option (List ChannelSettings)
  | .list items => items.mapM (ChannelSettings.ofValue? format)
  | _ => none

/-- The settings that the data stand for. -/
def Settings.ofValue? (format : Format) (value : Value) : Option Settings := do
  let fields ← value.fields? format ["logging", "bridge", "driver", "channels"]
  let usual : Settings := {}
  return {
    logging :=
      ← Value.field? fields "logging" (some usual.logging) (LoggingSettings.ofValue? format)
    bridge := ← Value.field? fields "bridge" (some usual.bridge) (BridgeSettings.ofValue? format)
    driver := ← Value.field? fields "driver" (some usual.driver) (DriverSettings.ofValue? format)
    channels :=
      ← Value.field? fields "channels" (some usual.channels)
          (ChannelSettings.listOfValue? format) }

/-! ### Settings as data -/

/-- The settings of a bridge as data; no timeout is a null. -/
def BridgeSettings.value (settings : BridgeSettings) : Value :=
  .table [("dispatcher_thread_name", .text settings.threadName),
    ("handoff_timeout_ms", settings.timeoutMillis.elim .null fun millis => .whole millis),
    ("queue_warn_depth", .whole settings.warnDepth)]

/-- The settings of the drivers as data. -/
def DriverSettings.value (settings : DriverSettings) : Value :=
  .table [("threads", .whole settings.threads),
    ("events_per_thread", .whole settings.eventsPerThread),
    ("fault_every", .whole settings.faultEvery),
    ("unknown_channel_ratio", .fraction settings.unknownRatio),
    ("event_interval_ms", .whole settings.intervalMillis)]

/-- A channel to open as data. -/
def ChannelSettings.value (settings : ChannelSettings) : Value :=
  .table [("number", .whole settings.number.toNat), ("handler", .text settings.kind.name)]

/-- The settings as data. -/
def Settings.value (settings : Settings) : Value :=
  .table [("logging", .table [("level", .text settings.logging.level)]),
    ("bridge", settings.bridge.value), ("driver", settings.driver.value),
    ("channels", .list (settings.channels.map ChannelSettings.value))]

end CallbackFerry
