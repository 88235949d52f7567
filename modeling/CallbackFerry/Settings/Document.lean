import CallbackFerry.Settings.Validation
import CallbackFerry.Settings.Value
import CallbackFerry.Toml.Document
import CallbackFerry.Toml.Written

/-!
# Settings as a document

Settings are kept as a TOML document: a table for the log, one for the bridge, one for the drivers,
and a list of tables for the channels.  `Settings.ofDocument` reads and checks one;
`Settings.document?` writes one, which fails only for numbers that the format cannot hold.
-/

namespace CallbackFerry

/-- Why a document gives no usable settings. -/
inductive DocumentError where
  /-- It is no document, or its data are no settings. -/
  | malformed
  /-- The settings have a flaw. -/
  | flawed (flaw : SettingsFlaw)
  deriving DecidableEq, Repr

/-- The messages about a document, from the outermost to the innermost. -/
def DocumentError.chain : DocumentError → List String
  | .malformed => ["TOML parse error"]
  | .flawed flaw => flaw.chain

namespace Settings

/-- The usable settings in a document. -/
def ofDocument (text : String) : Except DocumentError Settings :=
  match (Toml.read? text).bind (Settings.ofValue? .toml) with
  | none => .error .malformed
  | some settings =>
    match settings.flaw? with
    | some flaw => .error (.flawed flaw)
    | none => .ok settings

/-- A line that gives a name a value. -/
def entry (name written : String) : String :=
  name ++ " = " ++ written

/-- The document of the settings: blocks with an empty line between them. -/
def document? (settings : Settings) : Option String := do
  let whole := Toml.wholeText?
  let timeout ←
    match settings.bridge.timeoutMillis with
    | none => pure []
    | some millis => do pure [entry "handoff_timeout_ms" (← whole millis)]
  let logging := ["[logging]", entry "level" (Toml.quote settings.logging.level)]
  let bridge :=
    ["[bridge]", entry "dispatcher_thread_name" (Toml.quote settings.bridge.threadName)]
      ++ timeout ++ [entry "queue_warn_depth" (← whole settings.bridge.warnDepth)]
  let driver :=
    ["[driver]", entry "threads" (← whole settings.driver.threads),
      entry "events_per_thread" (← whole settings.driver.eventsPerThread),
      entry "fault_every" (← whole settings.driver.faultEvery),
      entry "unknown_channel_ratio" (Toml.fractionText settings.driver.unknownRatio),
      entry "event_interval_ms" (← whole settings.driver.intervalMillis)]
  let channels := settings.channels.map fun channel =>
    ["[[channels]]", entry "number" (toString channel.number.toNat),
      entry "handler" (Toml.quote channel.kind.name)]
  -- A list without members has no block of its own and stands before all blocks.
  let nothing := if settings.channels.isEmpty then [[entry "channels" "[]"]] else []
  let blocks := nothing ++ [logging, bridge, driver] ++ channels
  return "\n".intercalate (blocks.map fun block => "\n".intercalate block ++ "\n")

end Settings
end CallbackFerry
