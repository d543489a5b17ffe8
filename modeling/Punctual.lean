import Punctual.Armed
import Punctual.Binary64
import Punctual.Binary64.Reader
import Punctual.Binary64.Shortest
import Punctual.Bounds
import Punctual.Calendar
import Punctual.Clock
import Punctual.CommandLine
import Punctual.Config
import Punctual.Config.Record
import Punctual.Daemon
import Punctual.DryRun
import Punctual.Error
import Punctual.Execution
import Punctual.Executor
import Punctual.Handle
import Punctual.Instant
import Punctual.Instant.Text
import Punctual.Job
import Punctual.Job.File
import Punctual.Job.Record
import Punctual.Json
import Punctual.Json.Printer
import Punctual.Json.Reader
import Punctual.Json.Record
import Punctual.Log
import Punctual.Main
import Punctual.Manager
import Punctual.Named
import Punctual.Proofs.Admissions
import Punctual.Proofs.Agreement
import Punctual.Proofs.Bookkeeping
import Punctual.Proofs.CalendarDays
import Punctual.Proofs.Dates
import Punctual.Proofs.DryRunAccounts
import Punctual.Proofs.DryRunTurns
import Punctual.Proofs.Encodings
import Punctual.Proofs.FailedRequests
import Punctual.Proofs.Finality
import Punctual.Proofs.InstantTexts
import Punctual.Proofs.Instants
import Punctual.Proofs.Interleaving
import Punctual.Proofs.IntervalProgress
import Punctual.Proofs.IntervalSkips
import Punctual.Proofs.Isolation
import Punctual.Proofs.JobLocking
import Punctual.Proofs.LiveEntries
import Punctual.Proofs.LocalTimes
import Punctual.Proofs.LockSections
import Punctual.Proofs.Merges
import Punctual.Proofs.MissedFirings
import Punctual.Proofs.Occurrences
import Punctual.Proofs.OpenCalls
import Punctual.Proofs.Overflow
import Punctual.Proofs.Overlays
import Punctual.Proofs.Ownership
import Punctual.Proofs.Patches
import Punctual.Proofs.Persistence
import Punctual.Proofs.PollingRestarts
import Punctual.Proofs.Readings
import Punctual.Proofs.Records
import Punctual.Proofs.Recoverability
import Punctual.Proofs.RecoveryLoops
import Punctual.Proofs.RecoveryOutcomes
import Punctual.Proofs.Remainders
import Punctual.Proofs.RetryStates
import Punctual.Proofs.RunAccounts
import Punctual.Proofs.RunCourses
import Punctual.Proofs.ScanAccounts
import Punctual.Proofs.ScanWindows
import Punctual.Proofs.Scans
import Punctual.Proofs.SearchLengths
import Punctual.Proofs.SettingsLayers
import Punctual.Proofs.SimulatedTurns
import Punctual.Proofs.SingleFiring
import Punctual.Proofs.SkipComposition
import Punctual.Proofs.TaskTurns
import Punctual.Proofs.TimerFates
import Punctual.Proofs.TimerSkips
import Punctual.Proofs.Zones
import Punctual.Recipient
import Punctual.Retry
import Punctual.Scheduler
import Punctual.Scheduler.Admission
import Punctual.Scheduler.Firing
import Punctual.Scheduler.Locks
import Punctual.Scheduler.Recovery
import Punctual.Scheduler.Scan
import Punctual.Session
import Punctual.Settings
import Punctual.Settings.Conversion
import Punctual.Settings.Layer
import Punctual.Settings.Record
import Punctual.Settings.Sources
import Punctual.Simulation
import Punctual.Store
import Punctual.Tasks
import Punctual.Text.Blank
import Punctual.Text.Length
import Punctual.Text.LowerCase
import Punctual.Text.Numeral
import Punctual.Text.Quoted
import Punctual.TimeUnit
import Punctual.Timers
import Punctual.Timers.Trial
import Punctual.Toml
import Punctual.Toml.Reader
import Punctual.Toml.Scalar
import Punctual.Toml.Text
import Punctual.Trigger
import Punctual.Trigger.Interval
import Punctual.Trigger.Record
import Punctual.Trigger.SimpleTimer
import Punctual.Zone
import Punctual.Zone.Database
import Punctual.Zone.Rule
import Punctual.Zone.Table.Africa
import Punctual.Zone.Table.Aliases
import Punctual.Zone.Table.America
import Punctual.Zone.Table.Asia
import Punctual.Zone.Table.Europe
import Punctual.Zone.Table.Oceans
import Punctual.Zone.Table.Shared
