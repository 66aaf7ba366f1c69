import FleetMend.Cycle.Contribution
import FleetMend.Pruning.Step

/-!
Pruning as a part of a cycle.

* `prune`: one step of pruning within the deadline of the cycle, told at once.
-/

namespace FleetMend

/-- What a step comes to within a cycle. -/
def StepOutcome.contribution (o : StepOutcome) : Contribution where
  patch := o.patch
  failures := (o.error.map .prune).toList
  requeueAfter := some o.requeueAfter

/-- One step of pruning; its events are told at once. -/
def prune (timing : PruningTiming) (f : Fleet) (spec : PruningSpec) (c : CycleContext)
    (now : Time) : Cycle Contribution := do
  match ← c.withinDeadline "pruning step" (pruneStep timing f spec now) with
  | .ok step =>
    Cycle.announceAll f.key step.events
    pure step.contribution
  | .error e => pure { failures := [e], requeueAfter := some timing.retryDelay }

end FleetMend
