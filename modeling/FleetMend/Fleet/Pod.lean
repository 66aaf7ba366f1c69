import FleetMend.Time.Basic

/-!
Pods as they are observed.

* `Pod.isPruner`: the pod stands in for another while its data is pruned.
* `Pod.allTerminated`: the pod has containers and all of them have ended.
-/

namespace FleetMend

inductive ContainerState
  | waiting (reason : Option String)
  | running (startedAt : Time)
  | terminated (exitCode : Int32)
deriving DecidableEq

structure Container where
  name : String
  state : ContainerState
deriving DecidableEq

/-- A pod of a fleet. -/
structure Pod where
  name : String
  space : String
  /-- The number of the replica that the pod fills. -/
  ordinal : UInt32
  /-- The volume claim behind the data directory. -/
  claim : String
  readySince : Option Time := none
  containers : List Container := []
deriving DecidableEq

/-- What the name of a pruning pod ends in. -/
def prunerSuffix : String := "-pruner"

/-- The name of the pod that stands in for another while its data is pruned. -/
def prunerName (pod : String) : String := pod ++ prunerSuffix

def ContainerState.isTerminated : ContainerState → Bool
  | terminated _ => true
  | _ => false

namespace Pod

def isPruner (p : Pod) : Bool := prunerSuffix.toList.isSuffixOf p.name.toList

/-- A pod that reports no container yet has not ended. -/
def allTerminated (p : Pod) : Bool :=
  !p.containers.isEmpty && p.containers.all (·.state.isTerminated)

end Pod

end FleetMend
