import Railwatch.General.Transition
import Railwatch.General.Loops
import Railwatch.General.Effects
import Railwatch.General.Retry
import Railwatch.General.Buffered
import Railwatch.General.Handoff
import Railwatch.General.Overwrites
import Railwatch.General.Register
import Railwatch.General.Windows
import Railwatch.General.Lexicographic
import Railwatch.General.Table
import Railwatch.General.Updates
import Railwatch.General.TreeMaps
import Railwatch.General.Intervals
import Railwatch.General.Quadrature
import Railwatch.General.Machine
import Railwatch.General.Approximation
import Railwatch.General.Deviation
import Railwatch.General.LastRun
import Railwatch.General.Brackets
import Railwatch.General.Buckets
import Railwatch.General.Calendar
import Railwatch.Core.Model
import Railwatch.Core.Text
import Railwatch.Alerts.Engine
import Railwatch.Alerts.Slots
import Railwatch.Alerts.Events
import Railwatch.Alerts.Latch
import Railwatch.Alerts.Sustained
import Railwatch.Alerts.Brackets
import Railwatch.Alerts.Imbalance
import Railwatch.History.Store
import Railwatch.History.Record
import Railwatch.History.Accounts
import Railwatch.History.Trapezoids
import Railwatch.History.Estimates
import Railwatch.History.Delivery
import Railwatch.History.Summary
import Railwatch.History.Periods
import Railwatch.History.Tariffs
import Railwatch.History.Prices
import Railwatch.History.Reference
import Railwatch.History.Repricing
import Railwatch.History.PriceText
import Railwatch.History.IncidentTable
import Railwatch.History.Today
import Railwatch.History.Chronology
import Railwatch.History.Completeness
import Railwatch.History.Coverage
import Railwatch.History.Migration
import Railwatch.Protocol.Wire
import Railwatch.Protocol.Layout
import Railwatch.Protocol.Exactness
import Railwatch.History.Arithmetic
import Railwatch.History.Conservation
import Railwatch.History.Totals
import Railwatch.Hardware.Exchange
import Railwatch.Hardware.Freshness
import Railwatch.Hardware.Poll
import Railwatch.Runtime.Storage
import Railwatch.Runtime.Daemon
import Railwatch.Runtime.Accounting
import Railwatch.Runtime.Identity
import Railwatch.Runtime.Acknowledgements
import Railwatch.Runtime.OpenRows
import Railwatch.Runtime.Agreement
import Railwatch.Runtime.Evidence
import Railwatch.Runtime.Limits
import Railwatch.Runtime.Stop
import Railwatch.Runtime.Overflow
import Railwatch.Ipc.Requests
import Railwatch.Ipc.Dispatch
import Railwatch.Ipc.PolicyUpdates
import Railwatch.Ipc.Connection
import Railwatch.Ipc.Framing
import Railwatch.Notify.Notifier
import Railwatch.Notify.Presented
import Railwatch.Notify.Repetition
import Railwatch.General.Calls
import Railwatch.General.Csv
import Railwatch.General.Files
import Railwatch.Hardware.Opening
import Railwatch.Hardware.Session
import Railwatch.Hardware.Traffic
import Railwatch.Hardware.Identity
import Railwatch.Clients.Stream
import Railwatch.Clients.Ending
import Railwatch.Clients.Lines
import Railwatch.Clients.Report
import Railwatch.Clients.Desktop
import Railwatch.Clients.Clicks
import Railwatch.Clients.Updates
import Railwatch.Clients.Closing
import Railwatch.Clients.Call
import Railwatch.Runtime.Samples
import Railwatch.Runtime.Startup
import Railwatch.Ipc.Clients
import Railwatch.Notify.Persistence
import Railwatch.General.Changes
import Railwatch.General.Shell
import Railwatch.General.Hexadecimal
import Railwatch.Hardware.Discovery
import Railwatch.Ipc.LiveView
import Railwatch.Ipc.Answers
import Railwatch.Clients.Panel
import Railwatch.Clients.Readings
import Railwatch.Clients.Launch
import Railwatch.General.Decimals
import Railwatch.Notify.Silence
