import FleetMend.Fleet.Spec
import FleetMend.Health.Rollout
import FleetMend.Health.Snapshot

/-!
Which pods lag behind the fleet.

* `stalled`: the synced pods whose height has been flat for too long.
* `behind`: the synced pods too far below the tallest one.
* `laggingPods`: the first where there are any, else the second, as far as the budget goes.
-/

namespace FleetMend

/-- The synced items whose height has been flat for the limit or longer; none without a limit. -/
def stalled (items : List StatusItem) (info : SortedMap String SyncInfo) (spec : DriftSpec) :
    List StatusItem :=
  match spec.retentionLimit? with
  | none => []
  | some limit =>
    (syncedItems items).filter fun i =>
      match info.find? i.pod.name with
      | some s => limit ≤ s.flatFor
      | none => false

/-- The greatest height of the synced items. -/
def tallest? (items : List StatusItem) : Option UInt64 :=
  ((syncedItems items).filterMap (·.height)).max?

/-- The synced items whose height is the threshold or more below the greatest. -/
def behind (items : List StatusItem) (spec : DriftSpec) : List StatusItem :=
  match tallest? items with
  | none => []
  | some top =>
    (syncedItems items).filter fun i =>
      match i.height with
      | some h => spec.threshold ≤ top - h
      | none => false

/-- The stalled pods, or else the pods behind, in the order of the snapshot. -/
def lagging (items : List StatusItem) (info : SortedMap String SyncInfo) (spec : DriftSpec) :
    List Pod :=
  let stalls := stalled items info spec
  (if stalls.isEmpty then behind items spec else stalls).map (·.pod)

/-- The lagging pods as far as the budget goes that `rule` gives for the pods available now. -/
def laggingPodsBy (rule : BudgetRule) (minReady : Span) (items : List StatusItem)
    (info : SortedMap String SyncInfo) (spec : DriftSpec) (rollout : RolloutStrategy)
    (desired : UInt32) (now : Time) : List Pod :=
  let ready := (availablePods (syncedPods items) minReady now).length
  (lagging items info spec).take (rule rollout.maxUnavailable desired ready)

/-- The lagging pods as far as the disruption budget goes. -/
def laggingPods : (minReady : Span) → (items : List StatusItem) →
    (info : SortedMap String SyncInfo) → (spec : DriftSpec) → (rollout : RolloutStrategy) →
    (desired : UInt32) → (now : Time) → List Pod :=
  laggingPodsBy disruptionBudget

end FleetMend
