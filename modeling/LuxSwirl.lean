import LuxSwirl.Agent.Delivery
import LuxSwirl.Agent.Store
import LuxSwirl.Py.Value
import LuxSwirl.Agent.Reporter
import LuxSwirl.Agent.Replay
import LuxSwirl.Agent.Posting
import LuxSwirl.Agent.Parts
import LuxSwirl.Agent.DeliveryConservation
import LuxSwirl.Agent.ReplayConservation
import LuxSwirl.Agent.HealthyServer
import LuxSwirl.Agent.OddResults
import LuxSwirl.Lib.Newest
import LuxSwirl.Server.Models
import LuxSwirl.Server.Notifications
import LuxSwirl.Server.AlertEvaluation
import LuxSwirl.Server.AgentAssignment
import LuxSwirl.Server.SilenceAlert
import LuxSwirl.Lib.Notifier
import LuxSwirl.Server.Runs
import LuxSwirl.Server.Pair
import LuxSwirl.Server.View
import LuxSwirl.Server.Outages
import LuxSwirl.Server.Thresholds
import LuxSwirl.Server.RepeatedFailures
import LuxSwirl.Server.Recoveries
import LuxSwirl.Server.Passes
import LuxSwirl.Server.Snoozes
import LuxSwirl.Server.Silences
import LuxSwirl.Server.Expiries
import LuxSwirl.Server.Dependencies
import LuxSwirl.Py.Fnmatch
import LuxSwirl.Server.Checks
import LuxSwirl.Server.GlobalAlerts
import LuxSwirl.Lib.Window
import LuxSwirl.Server.ProviderLimit
import LuxSwirl.Server.Assignments
import LuxSwirl.Lib.Budget
import LuxSwirl.Server.CredentialBudget
import LuxSwirl.Server.Batches
import LuxSwirl.Server.Reports
import LuxSwirl.Server.LateResults
import LuxSwirl.Server.CheckOperations
import LuxSwirl.Lib.ReadCommitted
import LuxSwirl.Server.Jobs
import LuxSwirl.Lib.Schema
import LuxSwirl.Py.Uuid
import LuxSwirl.Agent.CheckConfig
import LuxSwirl.Agent.CheckExecutor
import LuxSwirl.Agent.ResultLimits
import LuxSwirl.Agent.ResultQueue
import LuxSwirl.Server.CheckResultSchema
import LuxSwirl.Server.ResultAcceptance
import LuxSwirl.Lib.InsertNew
import LuxSwirl.Server.Ingestion
import LuxSwirl.Server.IngestionExact
import LuxSwirl.Lib.Interleaving
import LuxSwirl.Server.SingleLevel
import LuxSwirl.Lib.Sessions
import LuxSwirl.Server.Leases
import LuxSwirl.Server.AgentKeys
import LuxSwirl.Server.AgentRows
import LuxSwirl.Server.Lifecycle
import LuxSwirl.Server.Heartbeats
import LuxSwirl.Lib.RowLocks
import LuxSwirl.Server.ActiveAdmins
import LuxSwirl.Agent.Identity
import LuxSwirl.Agent.RecoveryBackoff
import LuxSwirl.Lib.Lockout
import LuxSwirl.Server.Lockout
import LuxSwirl.Server.PasswordChange
import LuxSwirl.Server.CredentialFacts
import LuxSwirl.Server.CredentialsCurrent
import LuxSwirl.Server.CheckExports
import LuxSwirl.Server.CheckTransfer
import LuxSwirl.Server.ExportRoundTrip
import LuxSwirl.Server.SettingsRoundTrip
import LuxSwirl.Server.ImportRun
import LuxSwirl.Agent.TransferredChecks
import LuxSwirl.Agent.CheckLoading
import LuxSwirl.Agent.MainLoop
import LuxSwirl.Agent.SteadyLoop
import LuxSwirl.Server.StoredSettings
import LuxSwirl.Agent.RunSettings
import LuxSwirl.Agent.ListSync
import LuxSwirl.Server.CheckSeries
import LuxSwirl.Server.MaintenanceJobs
import LuxSwirl.Agent.CredentialsFile
import LuxSwirl.Lib.Savepoints
import LuxSwirl.Server.SettingsMemory
import LuxSwirl.Lib.Reminders
import LuxSwirl.Server.Resends
import LuxSwirl.Py.IpAddress
import LuxSwirl.Shared.Ssrf
import LuxSwirl.Shared.NetworkScan
import LuxSwirl.Shared.ServerUrl
import LuxSwirl.Lib.Rendezvous
import LuxSwirl.Server.Failover
import LuxSwirl.Agent.OversizedRows
import LuxSwirl.Lib.Counters
import LuxSwirl.Server.KeyedLimiter
import LuxSwirl.Lib.FreshName
import LuxSwirl.Server.CredentialMask
import LuxSwirl.Lib.Visits
import LuxSwirl.Server.BulkModify
import LuxSwirl.Server.StoredChecks
import LuxSwirl.Server.CloneCheck
import LuxSwirl.Py.Utf8
import LuxSwirl.Server.TargetColumn
import LuxSwirl.Lib.Nearest
import LuxSwirl.Server.StatusBars
import LuxSwirl.Agent.JsonComparison
import LuxSwirl.Lib.Sorting
import LuxSwirl.Server.SortChecks
import LuxSwirl.Lib.Positional
import LuxSwirl.Py.IpReading
import LuxSwirl.Server.ClientIp
import LuxSwirl.Agent.TimedRuns
import LuxSwirl.Lib.Picked
import LuxSwirl.Server.StatusPages
import LuxSwirl.Server.ScanChecks
import LuxSwirl.Agent.HeldRows
import LuxSwirl.Server.BulkNames
import LuxSwirl.Lib.Exclusive
import LuxSwirl.Server.FirstBoot
import LuxSwirl.Agent.DeliveryRuns
import LuxSwirl.System.ExactlyOnce
import LuxSwirl.Shared.SsrfTargets
import LuxSwirl.Agent.VettedTransport
import LuxSwirl.Lib.PriorityQueue
import LuxSwirl.Agent.JobProcessor
import LuxSwirl.System.JobRuns
import LuxSwirl.Server.CodePlacement
import LuxSwirl.Server.PageEdits
