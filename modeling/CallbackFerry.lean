import CallbackFerry.Bridge.Basic
import CallbackFerry.Bridge.Endpoint
import CallbackFerry.Bridge.Moves
import CallbackFerry.Callback
import CallbackFerry.CommandLine.Arguments
import CallbackFerry.CommandLine.Program
import CallbackFerry.Device
import CallbackFerry.Dispatcher
import CallbackFerry.Drivers.Dice
import CallbackFerry.Drivers.Event
import CallbackFerry.Drivers.Fleet
import CallbackFerry.Failure
import CallbackFerry.FilePath
import CallbackFerry.FileTree
import CallbackFerry.Handoff
import CallbackFerry.Host.Acts
import CallbackFerry.Host.Basic
import CallbackFerry.Host.Domain
import CallbackFerry.HostLoop
import CallbackFerry.Journal
import CallbackFerry.Json.Basic
import CallbackFerry.Json.Plain
import CallbackFerry.Json.Reader
import CallbackFerry.LogFilter
import CallbackFerry.LogFilter.FieldValue
import CallbackFerry.LogFilter.Pattern
import CallbackFerry.LogFilter.PatternSet
import CallbackFerry.Main
import CallbackFerry.Metrics.Counters
import CallbackFerry.Metrics.Latency
import CallbackFerry.Number.Binary64
import CallbackFerry.Number.Places
import CallbackFerry.Number.Rounding
import CallbackFerry.Number.Shortest
import CallbackFerry.Proofs.Bridge.Answers
import CallbackFerry.Proofs.Bridge.Book
import CallbackFerry.Proofs.Bridge.Conservation
import CallbackFerry.Proofs.Bridge.Custody
import CallbackFerry.Proofs.Bridge.Drain
import CallbackFerry.Proofs.Bridge.Execution
import CallbackFerry.Proofs.Bridge.History
import CallbackFerry.Proofs.Bridge.Ledger
import CallbackFerry.Proofs.Bridge.Life
import CallbackFerry.Proofs.Bridge.Moves
import CallbackFerry.Proofs.Bridge.Results
import CallbackFerry.Proofs.Bridge.Standing
import CallbackFerry.Proofs.Bridge.Start
import CallbackFerry.Proofs.Bridge.Turns
import CallbackFerry.Proofs.Device
import CallbackFerry.Proofs.Device.Reset
import CallbackFerry.Proofs.Dispatcher
import CallbackFerry.Proofs.Drivers.Event
import CallbackFerry.Proofs.Drivers.Fleet
import CallbackFerry.Proofs.Drivers.Log
import CallbackFerry.Proofs.Drivers.Totals
import CallbackFerry.Proofs.Handoff
import CallbackFerry.Proofs.Host.Delivery
import CallbackFerry.Proofs.Host.Domain
import CallbackFerry.Proofs.Host.Refinement
import CallbackFerry.Proofs.Host.Relinquished
import CallbackFerry.Proofs.Host.Report
import CallbackFerry.Proofs.Host.Room
import CallbackFerry.Proofs.Host.Staging
import CallbackFerry.Proofs.Host.Table
import CallbackFerry.Proofs.Host.Untended
import CallbackFerry.Proofs.Host.Watch
import CallbackFerry.Proofs.Number.Value
import CallbackFerry.Proofs.Queue.History
import CallbackFerry.Proofs.Queue.Wakeups
import CallbackFerry.Proofs.Radio.Summary
import CallbackFerry.Proofs.Run
import CallbackFerry.Proofs.Settings.Validation
import CallbackFerry.Proofs.Simulation.Accounting
import CallbackFerry.Proofs.Simulation.Chronicle
import CallbackFerry.Proofs.Simulation.Closing
import CallbackFerry.Proofs.Simulation.Crew
import CallbackFerry.Proofs.Simulation.Domain
import CallbackFerry.Proofs.Simulation.Flights
import CallbackFerry.Proofs.Simulation.Landings
import CallbackFerry.Proofs.Simulation.Moves
import CallbackFerry.Proofs.Simulation.Service
import CallbackFerry.Proofs.Text.Utf8
import CallbackFerry.Queue
import CallbackFerry.Queue.Monitor
import CallbackFerry.Radio.Channel
import CallbackFerry.Radio.ChannelMap
import CallbackFerry.Radio.Commentary
import CallbackFerry.Radio.EventCode
import CallbackFerry.Radio.Frame
import CallbackFerry.Radio.MessageCode
import CallbackFerry.Radio.ResetReason
import CallbackFerry.Radio.Sample
import CallbackFerry.Radio.Summary
import CallbackFerry.Rehearsal.Acting
import CallbackFerry.Rehearsal.DispatcherScript
import CallbackFerry.Rehearsal.DriversScript
import CallbackFerry.Rehearsal.HandoffScript
import CallbackFerry.Rehearsal.Job
import CallbackFerry.Rehearsal.MetricsScript
import CallbackFerry.Rehearsal.QueueScript
import CallbackFerry.Rehearsal.Script
import CallbackFerry.Rehearsal.StationScript
import CallbackFerry.Rehearsal.TrialScript
import CallbackFerry.Settings.Basic
import CallbackFerry.Settings.Document
import CallbackFerry.Settings.Storage
import CallbackFerry.Settings.Validation
import CallbackFerry.Settings.Value
import CallbackFerry.Simulation
import CallbackFerry.Simulation.Campaign
import CallbackFerry.Simulation.Report
import CallbackFerry.Station
import CallbackFerry.Text.Alphabetic
import CallbackFerry.Text.Blank
import CallbackFerry.Text.Hex
import CallbackFerry.Text.Listed
import CallbackFerry.Text.Numeric
import CallbackFerry.Text.Position
import CallbackFerry.Text.Range
import CallbackFerry.Text.Reader
import CallbackFerry.Text.Utf8
import CallbackFerry.Time
import CallbackFerry.Toml.Document
import CallbackFerry.Toml.Gap
import CallbackFerry.Toml.Quoted
import CallbackFerry.Toml.Scalar
import CallbackFerry.Toml.Tree
import CallbackFerry.Toml.Written
import CallbackFerry.Proofs.Drivers.Choice
import CallbackFerry.Proofs.Metrics.Latency
