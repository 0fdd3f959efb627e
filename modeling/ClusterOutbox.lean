import ClusterOutbox.Delivery.Batch
import ClusterOutbox.Delivery.Error
import ClusterOutbox.Delivery.Run
import ClusterOutbox.Metrics.Exposition
import ClusterOutbox.Number.Decimal
import ClusterOutbox.Number.Double
import ClusterOutbox.Probe.Routes
import ClusterOutbox.Proofs.Delivery.Acknowledged
import ClusterOutbox.Proofs.Delivery.Alone
import ClusterOutbox.Proofs.Delivery.AtLeastOnce
import ClusterOutbox.Proofs.Delivery.Attempts
import ClusterOutbox.Proofs.Delivery.Backoff
import ClusterOutbox.Proofs.Delivery.Budget
import ClusterOutbox.Proofs.Delivery.Course
import ClusterOutbox.Proofs.Delivery.Deliveries
import ClusterOutbox.Proofs.Delivery.Duties
import ClusterOutbox.Proofs.Delivery.Effect
import ClusterOutbox.Proofs.Delivery.Ensures
import ClusterOutbox.Proofs.Delivery.History
import ClusterOutbox.Proofs.Delivery.LateObservation
import ClusterOutbox.Proofs.Delivery.Latest
import ClusterOutbox.Proofs.Delivery.Log
import ClusterOutbox.Proofs.Delivery.Overlap
import ClusterOutbox.Proofs.Delivery.Reading
import ClusterOutbox.Proofs.Delivery.Requests
import ClusterOutbox.Proofs.Delivery.Retries
import ClusterOutbox.Proofs.Delivery.Samples
import ClusterOutbox.Proofs.Delivery.SecondFlush
import ClusterOutbox.Proofs.Delivery.Shutdown
import ClusterOutbox.Proofs.Delivery.Tally
import ClusterOutbox.Proofs.Delivery.Totals
import ClusterOutbox.Proofs.Delivery.World
import ClusterOutbox.Proofs.Probe.Reports
import ClusterOutbox.Proofs.Record.Document
import ClusterOutbox.Proofs.Retention.Cutoff
import ClusterOutbox.Proofs.Retention.Guarded
import ClusterOutbox.Proofs.Retention.Pass
import ClusterOutbox.Proofs.Retention.Pending
import ClusterOutbox.Proofs.Schedule.Callers
import ClusterOutbox.Proofs.Schedule.Chronicle
import ClusterOutbox.Proofs.Schedule.Discipline
import ClusterOutbox.Proofs.Schedule.Rounds
import ClusterOutbox.Proofs.Schedule.Standing
import ClusterOutbox.Proofs.Secret.Rotation
import ClusterOutbox.Proofs.Settings.Endpoint
import ClusterOutbox.Proofs.Settings.Identity
import ClusterOutbox.Proofs.Settings.NormalForm
import ClusterOutbox.Proofs.Store.Arising
import ClusterOutbox.Proofs.Store.Batch
import ClusterOutbox.Proofs.Store.Calls
import ClusterOutbox.Proofs.Store.Capped
import ClusterOutbox.Proofs.Store.Catalog
import ClusterOutbox.Proofs.Store.Confirmation
import ClusterOutbox.Proofs.Store.Convergence
import ClusterOutbox.Proofs.Store.Deletion
import ClusterOutbox.Proofs.Store.Entry
import ClusterOutbox.Proofs.Store.Failure
import ClusterOutbox.Proofs.Store.FailureCount
import ClusterOutbox.Proofs.Store.Lawful
import ClusterOutbox.Proofs.Store.Ledger
import ClusterOutbox.Proofs.Store.LookUp
import ClusterOutbox.Proofs.Store.Migration
import ClusterOutbox.Proofs.Store.Nesting
import ClusterOutbox.Proofs.Store.Observation
import ClusterOutbox.Proofs.Store.Operation
import ClusterOutbox.Proofs.Store.OrderedMap
import ClusterOutbox.Proofs.Store.ReadBack
import ClusterOutbox.Proofs.Store.Resend
import ClusterOutbox.Proofs.Store.Rules
import ClusterOutbox.Proofs.Store.Selection
import ClusterOutbox.Proofs.Store.Session
import ClusterOutbox.Proofs.Store.Soundness
import ClusterOutbox.Proofs.Store.Steady
import ClusterOutbox.Proofs.Store.Transaction
import ClusterOutbox.Proofs.Store.Visited
import ClusterOutbox.Proofs.Store.Weight
import ClusterOutbox.Proofs.Text.ByteOrder
import ClusterOutbox.Proofs.Wire.Block
import ClusterOutbox.Proofs.Wire.Body
import ClusterOutbox.Proofs.Wire.Description
import ClusterOutbox.Proofs.Wire.Dimensions
import ClusterOutbox.Proofs.Wire.Field
import ClusterOutbox.Proofs.Wire.Request
import ClusterOutbox.Record.Document
import ClusterOutbox.Retention.Keeper
import ClusterOutbox.Schedule.Timeline
import ClusterOutbox.Secret.ApiKey
import ClusterOutbox.Settings.Load
import ClusterOutbox.Store.Database
import ClusterOutbox.Store.Migration
import ClusterOutbox.Store.Query
import ClusterOutbox.Store.Session
import ClusterOutbox.Store.Table
import ClusterOutbox.Url.Endpoint
import ClusterOutbox.Url.Form
import ClusterOutbox.Url.Host
import ClusterOutbox.Url.Punycode
import ClusterOutbox.Wire.InfoSeries
import ClusterOutbox.Wire.Snappy
