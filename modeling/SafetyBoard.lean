import SafetyBoard.Dismissal.Basic
import SafetyBoard.Dismissal.Ledger
import SafetyBoard.Error
import SafetyBoard.Gate
import SafetyBoard.Gate.Program
import SafetyBoard.Hub.Host
import SafetyBoard.Hub.Message
import SafetyBoard.Hub.Operations
import SafetyBoard.Hub.State
import SafetyBoard.Inbox
import SafetyBoard.Inbox.Script
import SafetyBoard.Json.Basic
import SafetyBoard.Json.Decode
import SafetyBoard.Json.Parser
import SafetyBoard.Json.Printer
import SafetyBoard.Json.Schema
import SafetyBoard.Keys
import SafetyBoard.Log
import SafetyBoard.Number.Basic
import SafetyBoard.Number.Decimal
import SafetyBoard.Number.Reader
import SafetyBoard.Refresh.Coordinator
import SafetyBoard.Refresh.Reason
import SafetyBoard.Report.Admission
import SafetyBoard.Report.Basic
import SafetyBoard.Report.Store
import SafetyBoard.Scenario.Play
import SafetyBoard.Scenario.Step
import SafetyBoard.Scenario.World
import SafetyBoard.Settings
import SafetyBoard.Severity
import SafetyBoard.Shell
import SafetyBoard.Signal
import SafetyBoard.Source.Basic
import SafetyBoard.Source.Config
import SafetyBoard.Source.Loading
import SafetyBoard.Source.Registry
import SafetyBoard.Strings
import SafetyBoard.Table
import SafetyBoard.Telemetry
import SafetyBoard.Text.Basic
import SafetyBoard.Text.Blank
import SafetyBoard.Text.Percent
import SafetyBoard.Text.Utf8
import SafetyBoard.Users
import SafetyBoard.View.Basic
import SafetyBoard.View.Board
import SafetyBoard.View.Entries
import SafetyBoard.View.Issues
import SafetyBoard.View.Remarks
import SafetyBoard.Wire.Events
import SafetyBoard.Wire.Keys
import SafetyBoard.Wire.Names
import SafetyBoard.Wire.Operations
import SafetyBoard.Wire.Reports
import SafetyBoard.Wire.Sources
import SafetyBoard.Wire.Views
import SafetyBoard.Proofs.Fresh
import SafetyBoard.Proofs.Severity
import SafetyBoard.Proofs.Number.Counting
import SafetyBoard.Proofs.Keys
import SafetyBoard.Proofs.Table
import SafetyBoard.Proofs.History
import SafetyBoard.Proofs.Report.Store
import SafetyBoard.Proofs.Report.History
import SafetyBoard.Proofs.Dismissal.Ledger
import SafetyBoard.Proofs.Refresh.Run
import SafetyBoard.Proofs.Refresh.Accounting
import SafetyBoard.Proofs.Refresh.Completion
import SafetyBoard.Proofs.Refresh.Stale
import SafetyBoard.Proofs.Act
import SafetyBoard.Proofs.Hub.Execution
import SafetyBoard.Proofs.Hub.Writes
import SafetyBoard.Proofs.Hub.Reached
import SafetyBoard.Proofs.Hub.Timeout
import SafetyBoard.Proofs.Hub.Calls
import SafetyBoard.Proofs.Hub.Onward
import SafetyBoard.Proofs.Hub.Sound
import SafetyBoard.Proofs.Hub.Stale
import SafetyBoard.Proofs.Hub.Refusal
import SafetyBoard.Proofs.Hub.Dismissal
import SafetyBoard.Proofs.View.Entries
import SafetyBoard.Proofs.View.Order
import SafetyBoard.Proofs.View.Overall
import SafetyBoard.Proofs.View.Reads
import SafetyBoard.Proofs.Hub.Launch
import SafetyBoard.Proofs.Hub.Removal
import SafetyBoard.Proofs.Hub.Silence
import SafetyBoard.Proofs.Hub.Interleaving
import SafetyBoard.Proofs.Hub.Tracking
import SafetyBoard.Proofs.Json.Schema
import SafetyBoard.Proofs.Json.Meaning
import SafetyBoard.Proofs.Source.Config
import SafetyBoard.Proofs.Report.Reading
import SafetyBoard.Proofs.Report.Acceptance
import SafetyBoard.Proofs.View.Titles
import SafetyBoard.Proofs.Hub.Ranking
import SafetyBoard.Proofs.Dismissal.Persistence
import SafetyBoard.Proofs.Dismissal.History
import SafetyBoard.Proofs.Dismissal.Mirror
import SafetyBoard.Proofs.Dismissal.Backup
import SafetyBoard.Proofs.Hub.Restore
import SafetyBoard.Proofs.Inbox.Desk
import SafetyBoard.Proofs.Inbox.Draining
import SafetyBoard.Proofs.Inbox.Script
import SafetyBoard.Proofs.Inbox.Order
import SafetyBoard.Proofs.Hub.Disabled
import SafetyBoard.Proofs.Hub.Errors
import SafetyBoard.Proofs.Hub.Undismissed
import SafetyBoard.Proofs.Dismissal.Loading
import SafetyBoard.Proofs.Dismissal.Saving
import SafetyBoard.Proofs.Hub.Import
import SafetyBoard.Proofs.Hub.Saving
import SafetyBoard.Proofs.Hub.Requests
import SafetyBoard.Proofs.Hub.Expiry
import SafetyBoard.Proofs.View.Arrangement
import SafetyBoard.Proofs.View.Grouping
import SafetyBoard.Proofs.View.Taps
import SafetyBoard.Proofs.View.Unlisting
import SafetyBoard.Proofs.Hub.Unlisting
import SafetyBoard.Proofs.Hub.Resending
import SafetyBoard.Proofs.Dismissal.Readback
import SafetyBoard.Proofs.Shell
import SafetyBoard.Proofs.Number.Order
import SafetyBoard.Proofs.Refresh.Durations
import SafetyBoard.Proofs.Source.Index
import SafetyBoard.Proofs.Gate
