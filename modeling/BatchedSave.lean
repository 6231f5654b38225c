import BatchedSave.Abort
import BatchedSave.Batch.Basic
import BatchedSave.Batch.Script
import BatchedSave.Batch.View
import BatchedSave.Column
import BatchedSave.Command
import BatchedSave.Command.Form
import BatchedSave.Config.Basic
import BatchedSave.Config.Form
import BatchedSave.Config.Reading
import BatchedSave.Cursor
import BatchedSave.Decimal.Binary64
import BatchedSave.Decimal.Numeral
import BatchedSave.Decimal.Reading
import BatchedSave.Decimal.Shortest
import BatchedSave.Dialect
import BatchedSave.Document.Basic
import BatchedSave.Document.Slot
import BatchedSave.Error
import BatchedSave.Json.Reading
import BatchedSave.Json.Writing
import BatchedSave.Limits
import BatchedSave.Log
import BatchedSave.Metrics.Counters
import BatchedSave.Metrics.Event
import BatchedSave.Metrics.Form
import BatchedSave.Metrics.Meter
import BatchedSave.Parameter
import BatchedSave.Parameter.Form
import BatchedSave.Program.Basic
import BatchedSave.Program.Manner
import BatchedSave.Program.Request
import BatchedSave.Program.ScriptedStore
import BatchedSave.Reconciliation.Basic
import BatchedSave.Reconciliation.Steps
import BatchedSave.Reconciliation.Walk
import BatchedSave.RoundTrip
import BatchedSave.Save
import BatchedSave.SaveError
import BatchedSave.SaveError.Form
import BatchedSave.Saver
import BatchedSave.Statement
import BatchedSave.Statement.Execution
import BatchedSave.Text.Printable
import BatchedSave.Text.Quoted
import BatchedSave.Toml.Reading
import BatchedSave.Toml.Table
import BatchedSave.Toml.Text
import BatchedSave.Toml.Word
import BatchedSave.Value
import BatchedSave.Value.Form
import BatchedSave.Proofs.Program.Accounts
import BatchedSave.Proofs.Program.Events
import BatchedSave.Proofs.Program.Feed
import BatchedSave.Proofs.Program.Guarded
import BatchedSave.Proofs.Program.Journal
import BatchedSave.Proofs.Program.Masking
import BatchedSave.Proofs.Program.OverCursor
import BatchedSave.Proofs.Program.Runs
import BatchedSave.Proofs.Program.Twins
import BatchedSave.Proofs.Program.Waiting
import BatchedSave.Proofs.Batch.Fidelity
import BatchedSave.Proofs.Batch.Naming
import BatchedSave.Proofs.Batch.Parameters
import BatchedSave.Proofs.Reconciliation.Acceptance
import BatchedSave.Proofs.Reconciliation.Heard
import BatchedSave.Proofs.Reconciliation.OneWalk
import BatchedSave.Proofs.Reconciliation.Rejection
import BatchedSave.Proofs.Reconciliation.Replies
import BatchedSave.Proofs.Reconciliation.Resumption
import BatchedSave.Proofs.Reconciliation.Secrecy
import BatchedSave.Proofs.RoundTrip.Classification
import BatchedSave.Proofs.RoundTrip.Secrecy
import BatchedSave.Proofs.RoundTrip.Trip
import BatchedSave.Proofs.Save.Course
import BatchedSave.Proofs.Save.Ending
import BatchedSave.Proofs.Save.FewestTrips
import BatchedSave.Proofs.Save.GivingUp
import BatchedSave.Proofs.Save.Greedy
import BatchedSave.Proofs.Save.Ledger
import BatchedSave.Proofs.Save.Local
import BatchedSave.Proofs.Save.Pieces
import BatchedSave.Proofs.Save.Postings
import BatchedSave.Proofs.Save.Recutting
import BatchedSave.Proofs.Save.Release
import BatchedSave.Proofs.Save.Secrecy
import BatchedSave.Proofs.Save.Sendings
import BatchedSave.Proofs.Save.Suspension
import BatchedSave.Proofs.Save.Totals
import BatchedSave.Proofs.Save.WithinLimits
import BatchedSave.Proofs.Batch.Framing
import BatchedSave.Proofs.Batch.Rollback
import BatchedSave.Proofs.Save.Halting
import BatchedSave.Proofs.Save.Drawing
import BatchedSave.Proofs.Save.Oversized
import BatchedSave.Proofs.Command.Columns
import BatchedSave.Proofs.Command.Drafting
import BatchedSave.Proofs.RoundTrip.FailureLog
import BatchedSave.Proofs.Command.Condition
import BatchedSave.Proofs.RoundTrip.Scope
import BatchedSave.Proofs.Cursor.Place
import BatchedSave.Proofs.Metrics.Totals
import BatchedSave.Proofs.Metrics.Scopes
import BatchedSave.Proofs.Save.Verdicts
import BatchedSave.Proofs.Json.Rereading
import BatchedSave.Proofs.Config.Excerpts
import BatchedSave.Proofs.Program.Checks
import BatchedSave.Proofs.Batch.Checks
import BatchedSave.Proofs.Reconciliation.Checks
import BatchedSave.Proofs.Save.Checks
