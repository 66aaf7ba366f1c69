import FleetMend.Cluster.Call
import FleetMend.Cluster.Codec
import FleetMend.Cycle.Autoscale
import FleetMend.Cycle.Contribution
import FleetMend.Cycle.Drift
import FleetMend.Cycle.Error
import FleetMend.Cycle.Persist
import FleetMend.Cycle.Prune
import FleetMend.Cycle.Query
import FleetMend.Cycle.Reconcile
import FleetMend.Data.SortedMap
import FleetMend.Event.Basic
import FleetMend.Event.Codec
import FleetMend.Event.Reporter
import FleetMend.Failures
import FleetMend.Fleet.Basic
import FleetMend.Fleet.Codec.Fleet
import FleetMend.Fleet.Codec.Pod
import FleetMend.Fleet.Codec.Spec
import FleetMend.Fleet.Codec.Status
import FleetMend.Fleet.Key
import FleetMend.Fleet.Pod
import FleetMend.Fleet.Spec
import FleetMend.Fleet.Status
import FleetMend.Health.Capacity
import FleetMend.Health.Drift
import FleetMend.Health.Error
import FleetMend.Health.FailureWindow
import FleetMend.Health.Rollout
import FleetMend.Health.Snapshot
import FleetMend.Json.Reader
import FleetMend.Json.Token
import FleetMend.Json.Value
import FleetMend.Json.Writer
import FleetMend.Number.Binary64
import FleetMend.Number.Literal
import FleetMend.Number.Stepwise
import FleetMend.Patch
import FleetMend.Program
import FleetMend.Pruning.Checks
import FleetMend.Pruning.Choice
import FleetMend.Pruning.Error
import FleetMend.Pruning.Step
import FleetMend.Quantity.Basic
import FleetMend.Quantity.Error
import FleetMend.Quantity.Printer
import FleetMend.Quantity.Reader
import FleetMend.Rehearsal.Ensemble
import FleetMend.Rehearsal.Plan
import FleetMend.Rehearsal.Solo
import FleetMend.Rehearsal.World
import FleetMend.Scheduler.Gate
import FleetMend.Scheduler.Routine
import FleetMend.Scheduler.Signal
import FleetMend.Scheduler.Workers
import FleetMend.Settings.Basic
import FleetMend.Settings.Codec
import FleetMend.Settings.Layers
import FleetMend.Settings.Path
import FleetMend.Share
import FleetMend.Store
import FleetMend.Text.Digits
import FleetMend.Text.Invisible
import FleetMend.Text.Quoted
import FleetMend.Time.Basic
import FleetMend.Time.Calendar
import FleetMend.Time.Rfc3339
import FleetMend.Time.SpanText
import FleetMend.Proofs.Dialogue
import FleetMend.Proofs.Persist.Attempt
import FleetMend.Proofs.Persist.History
import FleetMend.Proofs.Persist.Race
import FleetMend.Proofs.Persist.Versions
import FleetMend.Proofs.Pruning.Sight
import FleetMend.Proofs.Pruning.Advance
import FleetMend.Proofs.Pruning.Bookkeeping
import FleetMend.Proofs.Pruning.Reset
import FleetMend.Proofs.Cycle.Clock
import FleetMend.Proofs.Cycle.Course
import FleetMend.Proofs.Cycle.Preliminary
import FleetMend.Proofs.Cycle.Atomicity
import FleetMend.Proofs.Cycle.Parts
import FleetMend.Proofs.Cycle.Ordinary
import FleetMend.Proofs.Cycle.Lockstep
import FleetMend.Proofs.Pruning.Fullest
import FleetMend.Proofs.Pruning.Choice
import FleetMend.Proofs.Health.Drift
import FleetMend.Proofs.Health.Triggers
import FleetMend.Proofs.Cycle.Availability
import FleetMend.Proofs.Cycle.Disruption
import FleetMend.Proofs.Cycle.Deadline
import FleetMend.Proofs.Cycle.Announcement
import FleetMend.Proofs.Cycle.Independence
import FleetMend.Proofs.Cycle.Regeneration
import FleetMend.Proofs.Cycle.Replay
import FleetMend.Proofs.Pruning.Evidence
import FleetMend.Proofs.Pruning.Trail
import FleetMend.Proofs.Pruning.Passage
import FleetMend.Proofs.Health.Window
import FleetMend.Proofs.Health.FailureLog
import FleetMend.Proofs.Health.Retention
import FleetMend.Proofs.Patch.LastWrite
import FleetMend.Proofs.Patch.Commutation
import FleetMend.Proofs.Cycle.Rearrangement
import FleetMend.Proofs.Health.Resizes
import FleetMend.Proofs.Health.Increase
import FleetMend.Proofs.Health.NextCapacity
import FleetMend.Proofs.Health.Lagging
import FleetMend.Proofs.Health.Rounds
import FleetMend.Proofs.Health.Gain
import FleetMend.Proofs.Health.Growth
import FleetMend.Proofs.Scheduler.Conduct
import FleetMend.Proofs.Scheduler.Interleaving
import FleetMend.Proofs.Scheduler.Turnstile
import FleetMend.Proofs.Scheduler.Order
import FleetMend.Proofs.Scheduler.Staff
import FleetMend.Proofs.Scheduler.Exclusion
import FleetMend.Proofs.Scheduler.Shutdown
import FleetMend.Proofs.Text.WholeNumber
import FleetMend.Proofs.Quantity.Grammar
import FleetMend.Proofs.Quantity.Meaning
import FleetMend.Proofs.Quantity.Return
import FleetMend.Proofs.Quantity.Unit
import FleetMend.Proofs.Json.Return
import FleetMend.Proofs.Fleet.Scalars
import FleetMend.Proofs.Fleet.Return
