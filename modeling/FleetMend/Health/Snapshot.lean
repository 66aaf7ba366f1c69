import FleetMend.Fleet.Pod
import FleetMend.Fleet.Status

/-!
What a look at the running pods brings back, and what it says about each pod's height.

* `StatusItem.isSynced`: the pod answered, is not catching up and has a height.
* `deriveSyncInfo`: the state of every pod, with the time for which its height has been flat.
-/

namespace FleetMend

/-- What one pod reported. -/
structure StatusItem where
  pod : Pod
  height : Option UInt64 := none
  inSync : Option Bool := none
  /-- Why the pod could not be asked. -/
  error : Option String := none
  observedAt : Time
deriving DecidableEq

/-- How full a volume is. -/
structure DiskUsage where
  /-- The volume claim. -/
  name : String
  percentUsed : UInt32
  capacity : Quantity

def StatusItem.isSynced (i : StatusItem) : Bool :=
  i.error.isNone && i.inSync == some true && i.height.isSome

/-- The items of the synced pods, in order. -/
def syncedItems (items : List StatusItem) : List StatusItem := items.filter (·.isSynced)

def syncedPods (items : List StatusItem) : List Pod := (syncedItems items).map (·.pod)

/-! ### Sync info -/

/-- When the height last changed.  It stays while the pod cannot be asked or reports the height of
before, and is the time of the observation otherwise. -/
def StatusItem.lastChange (item : StatusItem) (before : Option SyncInfo) : Time :=
  match before with
  | none => item.observedAt
  | some b =>
    if item.error.isSome then b.lastBlockAt
    else if b.height.isSome ∧ b.height = item.height then b.lastBlockAt
    else item.observedAt

/-- The state of one pod; a pod that cannot be asked has no height. -/
def SyncInfo.ofItem (item : StatusItem) (before : Option SyncInfo) : SyncInfo :=
  let last := item.lastChange before
  { observedAt := item.observedAt
    height := if item.error.isSome then none else item.height
    inSync := if item.error.isSome then none else item.inSync
    error := item.error
    lastBlockAt := last
    flatFor := (item.observedAt.since? last).getD .zero }

/-- The state of every pod after the state of before; of two items for one pod the later counts. -/
def deriveSyncInfo (items : List StatusItem) (previous : SortedMap String SyncInfo) :
    SortedMap String SyncInfo :=
  .ofList (items.map fun i => (i.pod.name, .ofItem i (previous.find? i.pod.name)))

end FleetMend
