import BackupConsole.Board
import BackupConsole.CommandLine.Argument
import BackupConsole.CommandLine.Command
import BackupConsole.CommandLine.Help
import BackupConsole.CommandLine.Reading
import BackupConsole.CommandLine.Report
import BackupConsole.CommandLine.Work
import BackupConsole.Config.Extraction
import BackupConsole.Config.Layers
import BackupConsole.Config.Settings
import BackupConsole.Config.Value
import BackupConsole.Config.Variable
import BackupConsole.Console
import BackupConsole.Dashboard.App
import BackupConsole.Dashboard.Key
import BackupConsole.Dashboard.Screen
import BackupConsole.Dashboard.Typed
import BackupConsole.Job.Amount
import BackupConsole.Job.ArchiveType
import BackupConsole.Job.Detail
import BackupConsole.Job.Schedule
import BackupConsole.Job.Snapshot
import BackupConsole.Job.State
import BackupConsole.Json.Jobs
import BackupConsole.Json.Value
import BackupConsole.Main
import BackupConsole.Number.Binary64
import BackupConsole.Number.Integer
import BackupConsole.Number.Round
import BackupConsole.Observers
import BackupConsole.Order
import BackupConsole.Order.PauseModes
import BackupConsole.Order.Refusal
import BackupConsole.Polling.Cycle
import BackupConsole.Polling.Poll
import BackupConsole.Polling.Refresh
import BackupConsole.Proofs.Console.Agreement
import BackupConsole.Proofs.Console.Operation
import BackupConsole.Proofs.Console.Pump
import BackupConsole.Proofs.Console.Stopped
import BackupConsole.Proofs.Dashboard.Dialog
import BackupConsole.Proofs.Dashboard.Highlight
import BackupConsole.Proofs.Dashboard.Session
import BackupConsole.Proofs.Polling.Company
import BackupConsole.Proofs.Polling.Cycle
import BackupConsole.Proofs.Polling.Loss
import BackupConsole.Proofs.Polling.Pieces
import BackupConsole.Proofs.Polling.Pulse
import BackupConsole.Proofs.Polling.Readings
import BackupConsole.Proofs.Polling.Refresh
import BackupConsole.Proofs.Polling.Selection
import BackupConsole.Proofs.Roster.Consistency
import BackupConsole.Proofs.Roster.History
import BackupConsole.Proofs.Roster.Replacement
import BackupConsole.Proofs.Script.Invariant
import BackupConsole.Proofs.Script.Pieces
import BackupConsole.Proofs.Table.Diff
import BackupConsole.Proofs.Table.Display
import BackupConsole.Proofs.Table.Following
import BackupConsole.Proofs.Table.Replay
import BackupConsole.Proofs.Table.StableOrder
import BackupConsole.Proofs.Text.ByteOrder
import BackupConsole.Roster
import BackupConsole.RunState
import BackupConsole.Script
import BackupConsole.Simulation.Demo
import BackupConsole.Simulation.Identifier
import BackupConsole.Simulation.Job
import BackupConsole.Simulation.Peer
import BackupConsole.Simulation.Rehearsal
import BackupConsole.Simulation.Rows
import BackupConsole.Simulation.Server
import BackupConsole.Table
import BackupConsole.Table.SortKey
import BackupConsole.Text.Ascii
import BackupConsole.Text.Blank
import BackupConsole.Text.Cells
import BackupConsole.Text.CharRanges
import BackupConsole.Text.Cluster
import BackupConsole.Text.Cluster.Edge
import BackupConsole.Text.Emoji
import BackupConsole.Text.Escaped
import BackupConsole.Text.Extending
import BackupConsole.Text.Hex
import BackupConsole.Text.Pieces
import BackupConsole.Text.Unprintable
import BackupConsole.Text.Wide
import BackupConsole.Text.Width
import BackupConsole.Text.ZeroWidth
import BackupConsole.Throttle
import BackupConsole.Time.Calendar
import BackupConsole.Toml.Document
import BackupConsole.Toml.Moment
import BackupConsole.Toml.Numeral
import BackupConsole.Toml.Printed
import BackupConsole.Toml.Quoted
import BackupConsole.Toml.Space
import BackupConsole.Toml.Tree
import BackupConsole.Wire.Address
import BackupConsole.Wire.Answer
import BackupConsole.Wire.Client
import BackupConsole.Wire.Failure
import BackupConsole.Wire.Fields
import BackupConsole.Wire.Request
import BackupConsole.Wire.ResultLine
import BackupConsole.Proofs.Text.OneLine
import BackupConsole.Proofs.Text.Trimming
import BackupConsole.Proofs.Wire.ResultLine
import BackupConsole.Proofs.Wire.Row
import BackupConsole.Proofs.Wire.Grammar
import BackupConsole.Proofs.Wire.Quoted
import BackupConsole.Proofs.Polling.Exchange
import BackupConsole.Proofs.Console.Unannounced
import BackupConsole.Proofs.Order.CarryOut
import BackupConsole.Proofs.Wire.Reading
import BackupConsole.Proofs.Simulation.Conversation
import BackupConsole.Proofs.Simulation.Replies
import BackupConsole.Proofs.Simulation.Rows
import BackupConsole.Proofs.Simulation.Transport
import BackupConsole.Proofs.Polling.Exclusion
import BackupConsole.Proofs.Console.Forced
import BackupConsole.Proofs.Console.Unretried
import BackupConsole.Proofs.CommandLine.Ending
import BackupConsole.Proofs.Observers.Rounds
import BackupConsole.Proofs.Console.News
import BackupConsole.Proofs.Wire.RequestLine
import BackupConsole.Proofs.Console.Requests
import BackupConsole.Proofs.Simulation.Tidy
import BackupConsole.Proofs.Simulation.Effect
import BackupConsole.Proofs.Simulation.Handling
import BackupConsole.Proofs.Simulation.Events
import BackupConsole.Proofs.Simulation.Confinement
import BackupConsole.Proofs.Simulation.Progress
import BackupConsole.Proofs.Simulation.DryRun
import BackupConsole.Proofs.Text.Hexadecimal
import BackupConsole.Proofs.Simulation.Passwords
import BackupConsole.Proofs.Dashboard.Password
import BackupConsole.Proofs.Job.Schedule
import BackupConsole.Proofs.Simulation.Schedules
import BackupConsole.Proofs.Simulation.RestTime
import BackupConsole.Proofs.Simulation.FailedStart
import BackupConsole.Proofs.Toml.Quoted
import BackupConsole.Proofs.Toml.Numeral
import BackupConsole.Proofs.Toml.Lines
import BackupConsole.Proofs.Toml.Outermost
import BackupConsole.Proofs.Config.Layers
import BackupConsole.Proofs.Config.Printed
import BackupConsole.Proofs.Config.Laws
import BackupConsole.Proofs.Config.Reload
