import FleetMend.Cycle.Autoscale
import FleetMend.Cycle.Drift
import FleetMend.Cycle.Persist
import FleetMend.Cycle.Prune
import FleetMend.Failures

/-!
One cycle of a fleet.

* `Orchestrator.cycle`: reads the fleet, asks the evaluators that are switched on, each of the same
  snapshot, and stores their changes in one write.  A cycle that is cancelled stores nothing, and
  what announces the changes is told only once they are stored.
* `Orchestrator.reconcile`: what such a cycle came to, for whoever asked for it.
-/

namespace FleetMend

/-- What a cycle came to. -/
structure Outcome where
  /-- The milliseconds until the next cycle; none where the fleet is gone or not to be healed. -/
  requeueAfter : Option Nat
  failures : Failures ControlError := {}
deriving DecidableEq

def Outcome.isOk (o : Outcome) : Bool := o.failures.isEmpty

/-- How the changes of a cycle fared. -/
inductive Closing
  /-- The cycle was cancelled before they could be stored. -/
  | cancelled
  | stored
  | failed (e : ControlError)
deriving DecidableEq

/-- What went wrong at the end of a cycle. -/
def Closing.failures : Closing → List ControlError
  | cancelled => [.cancelled "reconcile"]
  | stored => []
  | failed e => [e]

/-- What a cycle did. -/
inductive Report
  /-- The fleet could not be read. -/
  | unread (e : ControlError)
  /-- The fleet is gone, or not to be healed. -/
  | idle
  /-- The fleet as it was read, what the evaluators added, and how that fared. -/
  | healed (fleet : Fleet) (contribution : Contribution) (closing : Closing)

/-- What a cycle goes by. -/
structure Orchestrator where
  settings : Settings
  retry : RetryPolicy

/-- A cycle goes by its settings alone. -/
def Orchestrator.ofSettings (settings : Settings) : Orchestrator := ⟨settings, settings.retry⟩

namespace Orchestrator

variable (o : Orchestrator)

/-- Asks an evaluator if it is switched on. -/
def whenSet {α : Type} (spec : Option α) (evaluate : α → Cycle Contribution) : Cycle Contribution :=
  match spec with
  | none => pure {}
  | some a => evaluate a

/-- Asks the evaluators: pruning, volumes, drift.  One that fails does not keep the others from
running. -/
def evaluate (f : Fleet) (heal : HealSpec) (c : CycleContext) (now : Time) :
    Cycle Contribution := do
  let io := o.settings.ioMillis
  let pruned ← whenSet heal.pruning fun spec => prune o.settings.pruningTiming f spec c now
  let scaled ← whenSet heal.autoscale fun spec => autoscale io f spec c now
  let mitigated ← whenSet heal.drift fun spec =>
    mitigateDrift o.settings.minReady { fleet := f, spec, context := c, io, now }
  pure (pruned ++ scaled ++ mitigated)

/-- When the next cycle is due after a contribution. -/
def requeue (contribution : Contribution) : Nat :=
  match contribution.requeueAfter with
  | none => o.settings.requeueMillis
  | some millis => min o.settings.requeueMillis millis

/-- Writes the changes of a cycle to the stored status; no changes are as good as stored. -/
def storeChanges (key : FleetKey) (c : CycleContext) (patch : Patch) :
    Cycle (Except ControlError Unit) :=
  if patch.isEmpty then pure (.ok ())
  else (·.bind id) <$> c.withinDeadline "persist status" (persist o.retry key patch)

/-- Stores the changes of a cycle and tells what announces them. -/
def conclude (key : FleetKey) (c : CycleContext) (contribution : Contribution) :
    Cycle Closing := do
  match ← o.storeChanges key c contribution.patch with
  | .ok () =>
    Cycle.announceAll key contribution.actions
    pure .stored
  | .error e =>
    Cycle.announce key (.statusPersistFailed e.message)
    pure (.failed e)

/-- The cycle of a fleet that is to be healed. -/
def healFleet (key : FleetKey) (f : Fleet) (heal : HealSpec) (c : CycleContext) :
    Cycle Report := do
  let now ← Cycle.wallClock
  let contribution ← o.evaluate f heal c now
  if ← c.isCancelled then pure (.healed f contribution .cancelled)
  else Report.healed f contribution <$> o.conclude key c contribution

/-- One cycle of the fleet under the key. -/
def cycle (key : FleetKey) (c : CycleContext) : Cycle Report := do
  match ← c.run "get resource" o.settings.ioMillis (Errand.call (.readFleet key)) with
  | .error e => pure (.unread e)
  | .ok none => pure .idle
  | .ok (some f) =>
    match f.spec.heal with
    | none => pure .idle
    | some heal => o.healFleet key f heal c

/-- What a cycle comes to. -/
def outcome : Report → Outcome
  | .unread e => ⟨some o.settings.requeueMillis, ⟨[e]⟩⟩
  | .idle => ⟨none, {}⟩
  | .healed _ contribution closing =>
    ⟨some (o.requeue contribution), ⟨contribution.failures ++ closing.failures⟩⟩

/-- One cycle of the fleet under the key, and what it comes to. -/
def reconcile (key : FleetKey) (c : CycleContext) : Cycle Outcome := o.outcome <$> o.cycle key c

end Orchestrator

end FleetMend
