import FleetMend.Data.SortedMap
import FleetMend.Quantity.Basic
import FleetMend.Time.Basic

/-!
What the controller has found out and decided about a fleet.

* `FleetStatus`: the state of the pods and the healing under way.
* `PruningPhase`: the five phases that pruning goes through in a circle.
-/

namespace FleetMend

/-- The state of one pod as it was last observed. -/
structure SyncInfo where
  observedAt : Time
  height : Option UInt64 := none
  inSync : Option Bool := none
  /-- Why the pod could not be asked. -/
  error : Option String := none
  /-- When the height last changed. -/
  lastBlockAt : Time
  /-- How long the height has been flat. -/
  flatFor : Span
deriving DecidableEq

/-- The size that a volume is to have. -/
structure ResizeRequest where
  size : Quantity
  requestedAt : Time
deriving BEq, Inhabited

inductive RegenPhase
  | notYet
  | regenerating
deriving DecidableEq, Inhabited

/-- The times at which a pod was deleted for falling behind, the oldest first. -/
structure FailureLog where
  times : List Time := []
  phase : RegenPhase := .notYet
deriving DecidableEq, Inhabited

inductive PruningPhase
  | findingCandidate
  | waitingForPodReplaced
  | waitingForComplete
  | restoringPod
  | confirmPodRestoration
deriving DecidableEq, Inhabited

def PruningPhase.name : PruningPhase → String
  | findingCandidate => "FindingCandidate"
  | waitingForPodReplaced => "WaitingForPodReplaced"
  | waitingForComplete => "WaitingForComplete"
  | restoringPod => "RestoringPod"
  | confirmPodRestoration => "ConfirmPodRestoration"

/-- A pod taken out for pruning. -/
structure Candidate where
  pod : String
  space : String
deriving DecidableEq, Inhabited

structure PruningStatus where
  phase : PruningPhase := .findingCandidate
  candidates : SortedMap String Candidate := ∅
  /-- The candidates whose pods are to be substituted, with the time since when. -/
  substituted : SortedMap String Time := ∅
deriving DecidableEq, Inhabited

structure HealingStatus where
  /-- The sizes asked for, by volume. -/
  resizes : SortedMap String ResizeRequest := ∅
  /-- The failures, by pod. -/
  failures : SortedMap String FailureLog := ∅
  /-- Nothing until pruning first runs. -/
  pruning : Option PruningStatus := none
deriving BEq, Inhabited

structure FleetStatus where
  /-- The state of the pods, by pod. -/
  syncInfo : SortedMap String SyncInfo := ∅
  healing : HealingStatus := {}
deriving BEq, Inhabited

end FleetMend
