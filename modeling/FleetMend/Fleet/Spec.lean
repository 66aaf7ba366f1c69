import FleetMend.Quantity.Basic
import FleetMend.Share
import FleetMend.Time.Basic

/-!
What the operator asks of a fleet.

* `FleetSpec`: the replicas, the rollout strategy and how the fleet is to be healed.
* `DriftSpec.retentionLimit?`, `PruningSpec.keepAvailable`: two settings with what stands for them
  where they are left out.
-/

namespace FleetMend

/-- How many pods may be unavailable at once; one where it is left out. -/
structure RolloutStrategy where
  maxUnavailable : Option Share := none
deriving DecidableEq, Inhabited

/-- Growing volumes as they fill up. -/
structure AutoscaleSpec where
  /-- The used percentage from which on a volume is to grow. -/
  trigger : UInt32
  /-- A percentage of the present size, or a size to add. -/
  increase : String
  /-- The size past which no volume grows; none where it is left out or zero. -/
  ceiling : Option Quantity := none
deriving BEq

/-- Starting the claim of a pod afresh when the pod keeps falling behind. -/
structure RegenerateSpec where
  /-- How far back failures count. -/
  window : Span
  /-- The number of failures that sets off the regeneration. -/
  threshold : UInt32
deriving DecidableEq

/-- Deleting pods whose height stalls or falls behind. -/
structure DriftSpec where
  /-- The distance to the tallest synced pod from which on a pod lags. -/
  threshold : UInt64
  /-- The time for which a height may stay flat. -/
  retention : Option Span := none
  regenerate : Option RegenerateSpec := none
deriving DecidableEq

inductive Backend
  | goleveldb
  | pebbledb
deriving DecidableEq

/-- Pruning the data of one pod at a time.  The settings after `minAvailable` are for the pruning
job. -/
structure PruningSpec where
  /-- The used percentage from which on a pod is a candidate. -/
  trigger : UInt32
  /-- The synced pods that have to remain. -/
  minAvailable : Option UInt32 := none
  dataDir : String := ""
  blocks : UInt64 := 10
  versions : UInt64 := 10
  cosmosSdk : Bool := true
  tendermint : Bool := true
  txIndex : Bool := true
  compact : Bool := true
  backend : Backend := .goleveldb
deriving DecidableEq

/-- The healing that is switched on. -/
structure HealSpec where
  autoscale : Option AutoscaleSpec := none
  drift : Option DriftSpec := none
  pruning : Option PruningSpec := none
deriving BEq, Inhabited

structure FleetSpec where
  replicas : UInt32
  rollout : RolloutStrategy := {}
  heal : Option HealSpec := none
deriving BEq, Inhabited

/-- The ceiling, as long as it is not zero. -/
def AutoscaleSpec.limit? (s : AutoscaleSpec) : Option Quantity :=
  s.ceiling.filter fun q => !q.isZero

/-- The time for which a height may stay flat, as long as it is not zero. -/
def DriftSpec.retentionLimit? (s : DriftSpec) : Option Span :=
  s.retention.filter fun d => d != .zero

/-- The synced pods that have to remain; two where it is left out. -/
def PruningSpec.keepAvailable (s : PruningSpec) : UInt32 := s.minAvailable.getD 2

end FleetMend
