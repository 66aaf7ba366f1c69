import FleetMend.Fleet.Pod
import FleetMend.Fleet.Spec
import FleetMend.Health.Snapshot

/-!
Which pod to take out for pruning.

* `chooseCandidate`: the synced pod with the fullest volume, as long as enough others remain.
-/

namespace FleetMend

/-- The volumes at or over the trigger, each with the first synced pod that claims it. -/
def prunable (spec : PruningSpec) (synced : List Pod) (usage : List DiskUsage) :
    List (DiskUsage × Pod) :=
  usage.filterMap fun v =>
    if v.percentUsed < spec.trigger then none
    else (synced.find? fun p => p.claim = v.name).map (v, ·)

/-- The fuller of two volumes, the first of two equally full. -/
def fuller (a b : DiskUsage × Pod) : DiskUsage × Pod :=
  if b.1.percentUsed ≤ a.1.percentUsed then a else b

/-- The first of the fullest volumes. -/
def fullest? : List (DiskUsage × Pod) → Option (DiskUsage × Pod)
  | [] => none
  | v :: rest => some (rest.foldl fuller v)

/-- One pod may go where at least the pods to keep are synced beside it. -/
def canSpare (spec : PruningSpec) (synced : List Pod) : Bool :=
  !synced.isEmpty && spec.keepAvailable.toNat ≤ synced.length - 1

/-- The synced pod with the fullest volume at or over the trigger, if one can be spared. -/
def chooseCandidate (spec : PruningSpec) (synced : List Pod) (usage : List DiskUsage) :
    Option Pod :=
  if canSpare spec synced then (fullest? (prunable spec synced usage)).map (·.2) else none

end FleetMend
