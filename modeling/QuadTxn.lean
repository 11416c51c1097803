import QuadTxn.Data.SortedSet
import QuadTxn.Data.SortedMap
import QuadTxn.Text.Escape
import QuadTxn.Rdf.Term
import QuadTxn.Rdf.Statement
import QuadTxn.Rdf.Model
import QuadTxn.Query.Basic
import QuadTxn.Query.Join
import QuadTxn.Store.Faulty
import QuadTxn.Txn.Ledger
import QuadTxn.Txn.Staging
import QuadTxn.Txn.Overlay.Namespaces
import QuadTxn.Txn.Overlay.Graphs
import QuadTxn.Txn.Coordinator
import QuadTxn.Txn.Recorder
import QuadTxn.Txn.Isolation
import QuadTxn.Txn.Outcome
import QuadTxn.Txn.Connection.Lifecycle
import QuadTxn.Txn.System
import QuadTxn.Config.Settings
import QuadTxn.Txn.Transaction
import QuadTxn.Txn.Request
import QuadTxn.Txn.Schedule
import QuadTxn.Config.Connect
import QuadTxn.Proofs.Guarantees.Views
import QuadTxn.Proofs.Guarantees.Changes
import QuadTxn.Proofs.Guarantees.Isolation
import QuadTxn.Proofs.Guarantees.Serializability
import QuadTxn.Proofs.Guarantees.Conflicts
import QuadTxn.Proofs.Guarantees.Rereads
import QuadTxn.Proofs.Guarantees.Order
import QuadTxn.Proofs.Guarantees.Exits
import QuadTxn.Proofs.Guarantees.Reads
import QuadTxn.Proofs.Staging.Bindings
import QuadTxn.Proofs.Calls.Bindings
import QuadTxn.Proofs.Guarantees.Bindings
import QuadTxn.Proofs.Guarantees.Sealing
import QuadTxn.Proofs.Gate.Outcomes
import QuadTxn.Proofs.Gate.Frames
import QuadTxn.Proofs.Gate.Reads
import QuadTxn.Proofs.Gate.Lifecycle
import QuadTxn.Proofs.Gate.Requests
import QuadTxn.Proofs.Gate.Systems
import QuadTxn.Proofs.Gate.Schedules
import QuadTxn.Proofs.Guarantees.Progress
import QuadTxn.Proofs.Guarantees.Footprints
import QuadTxn.Proofs.Sessions.Sharing
import QuadTxn.Proofs.Sessions.Journals
import QuadTxn.Proofs.Watching.Sessions
import QuadTxn.Proofs.Watching.Requests
import QuadTxn.Proofs.Watching.Care
import QuadTxn.Proofs.Watching.Faults
import QuadTxn.Proofs.Watching.Schedules
import QuadTxn.Proofs.Guarantees.Faults
import QuadTxn.Proofs.Calls.Converse
import QuadTxn.Proofs.Shadows.Frames
import QuadTxn.Proofs.Shadows.Systems
import QuadTxn.Proofs.Guarantees.Traces
import QuadTxn.Proofs.Statements.Unification
import QuadTxn.Proofs.Guarantees.Joins
import QuadTxn.Proofs.Ledger.Accounts
import QuadTxn.Proofs.Staging.Batches
import QuadTxn.Proofs.Guarantees.Staging
import QuadTxn.Proofs.Switching.Frames
import QuadTxn.Proofs.Guarantees.Switching
import QuadTxn.Proofs.Coordination.Books
import QuadTxn.Proofs.Coordination.Milestones
import QuadTxn.Proofs.Coordination.Requests
import QuadTxn.Proofs.Coordination.Systems
import QuadTxn.Proofs.Coordination.Gatherings
import QuadTxn.Proofs.Coordination.Histories
import QuadTxn.Proofs.Guarantees.Callbacks
import QuadTxn.Proofs.Coordination.Counts
import QuadTxn.Proofs.Guarantees.Metrics
import QuadTxn.Proofs.Guarantees.Misuse
import QuadTxn.Proofs.Retries.Standing
import QuadTxn.Proofs.Retries.Attempts
import QuadTxn.Proofs.Retries.Venues
import QuadTxn.Proofs.Guarantees.Retries
import QuadTxn.Proofs.Guarantees.Backoff
import QuadTxn.Proofs.Guarantees.Models
