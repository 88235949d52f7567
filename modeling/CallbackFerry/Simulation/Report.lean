import CallbackFerry.Device
import CallbackFerry.Drivers.Fleet
import CallbackFerry.Metrics.Counters

/-!
# The report of a simulation

What a whole simulation came to: the drivers' totals, the bridge's counters, the host's count of
tasks, and the device's account.  `RunReport.lines` is its text.
-/

namespace CallbackFerry

/-- What a simulation came to. -/
structure RunReport where
  /-- The totals of the drivers. -/
  drivers : DriverTotals
  /-- The counters of the bridge. -/
  metrics : Metrics
  /-- How many tasks the host ran. -/
  executed : Nat
  /-- The account of the device. -/
  device : Device

namespace RunReport

/-- The lines about the channels that had events. -/
def channelLines (device : Device) : List String :=
  if device.delivered.pairs.isEmpty then []
  else ["", "  Per channel:"] ++ device.delivered.pairs.map fun (channel, count) =>
    "    [" ++ channel.text ++ "] " ++ toString count ++ " event(s)"

/-- The text of the report, line by line. -/
def lines (report : RunReport) : List String :=
  let metrics := report.metrics
  let latency := metrics.latencies.stats
  ["", "Simulation complete", "",
    "  Callbacks submitted:  " ++ toString metrics.submitted,
    "  Executed in host:     " ++ toString report.executed,
    "  Events handled:       " ++ toString report.drivers.handled,
    "  Events not handled:   " ++ toString report.drivers.unhandled,
    "  Unknown channel:      " ++ toString metrics.routingErrors,
    "  Faults:               " ++ toString report.drivers.faults ++ " (driver) / "
      ++ toString report.device.faults ++ " (host hook)",
    "  Rejected:             " ++ toString metrics.rejected,
    "  Abandoned:            " ++ toString metrics.abandoned,
    "  Timed out:            " ++ toString metrics.timedOut,
    "  Device resets:        " ++ toString report.device.resets,
    "  Latency:              avg " ++ latency.avgText ++ " / p95 " ++ latency.p95Text
      ++ " / max " ++ latency.maxText]
    ++ channelLines report.device ++ [""]

end RunReport

end CallbackFerry
