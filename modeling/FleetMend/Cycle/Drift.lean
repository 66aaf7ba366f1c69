import FleetMend.Cycle.Contribution
import FleetMend.Health.Drift

/-!
Deleting lagging pods as a part of a cycle.

* `mitigateDrift`: deletes the lagging pods, logs every deletion as a failure of its pod, and starts
  the claim of a pod afresh whose failures are too many.
* `Remediation`: how far the deletions of one cycle have got.
-/

namespace FleetMend

/-- How far the deletions of one cycle have got.  The status is as the changes so far will leave it,
so that several deletions of one pod are counted together. -/
structure Remediation where
  working : FleetStatus
  deleted : Nat := 0
  contribution : Contribution := {}

/-- What the deletions of a cycle share. -/
structure DriftSetting where
  fleet : Fleet
  spec : DriftSpec
  context : CycleContext
  /-- The milliseconds that a single call may take. -/
  io : Nat
  now : Time

namespace Remediation

def add (r : Remediation) (c : Contribution) : Remediation :=
  { r with contribution := r.contribution ++ c }

/-- A failure is logged, which leaves the status as given, and perhaps announced. -/
def logged (r : Remediation) (op : StatusOp) (status : FleetStatus) (actions : List Event) :
    Remediation :=
  { r with working := status }.add { patch := [op], actions }

end Remediation

namespace DriftSetting

variable (s : DriftSetting)

def announce (event : Event) : Cycle Unit := Cycle.announce s.fleet.key event

/-- Deletes the claim of a pod; a claim that is gone already is as good as deleted. -/
def regenerateClaim (pod : Pod) : Cycle (Except ControlError Unit) := do
  match ← s.context.run "get pvc" s.io (Errand.call (.readClaim pod.space pod.claim)) with
  | .error e => pure (.error e)
  | .ok none => pure (.ok ())
  | .ok (some claim) =>
    ignoreNotFound <$> s.context.run "delete pvc" s.io (Errand.call (.deleteClaim claim))

/-- Logs the deletion of a pod.  Where it is one too many, the claim has to be deleted before the
failure counts; if that fails, the failure is not logged and the older ones still count. -/
def logFailure (tracker : Tracker) (pod : Pod) (r : Remediation) : Cycle Remediation := do
  let op : StatusOp := .recordFailure pod.name s.now tracker
  let (status, exceeded) := op.apply r.working
  if exceeded then
    match ← s.regenerateClaim pod with
    | .ok () => pure (r.logged op status [.claimRegenerating pod.name tracker.window])
    | .error e =>
      s.announce (.claimRegenerationFailed pod.name e.message)
      pure (r.add (.failed e))
  else pure (r.logged op status [])

/-- What follows the deletion of a pod: it is logged where claims are to be started afresh. -/
def afterDelete (r : Remediation) (pod : Pod) (reply : Except ControlError Unit) :
    Cycle Remediation :=
  match ignoreNotFound reply with
  | .error e => do
    s.announce (.driftPodDeleteFailed pod.name e.message)
    pure (r.add (.failed e))
  | .ok () =>
    let r := { r with deleted := r.deleted + 1 }
    match s.spec.regenerate with
    | none => pure r
    | some regenerate => s.logFailure (.ofSpec regenerate) pod r

/-- Deletes a pod and logs the deletion. -/
def remedy (r : Remediation) (pod : Pod) : Cycle Remediation := do
  s.afterDelete r pod (← s.context.run "delete pod" s.io (Errand.call (.deletePod pod)))

/-- The event that sums up the deletions, if there were any. -/
def summary (deleted : Nat) : List Event :=
  if deleted = 0 then []
  else [.podsDeletedForDrift s.spec.threshold s.spec.retentionLimit? deleted]

/-- The lagging pods of a snapshot. -/
def lagging (minReady : Span) (items : List StatusItem) (info : SortedMap String SyncInfo) :
    List Pod :=
  laggingPods minReady items info s.spec s.fleet.spec.rollout s.fleet.spec.replicas s.now

end DriftSetting

/-- Deletes the lagging pods, one after the other. -/
def mitigateDrift (minReady : Span) (s : DriftSetting) : Cycle Contribution := do
  match ← s.context.bound "collect sync status" s.io (Errand.call (.collectStatus s.fleet)) with
  | .error e => pure (.failed e)
  | .ok items =>
    let info := deriveSyncInfo items s.fleet.status.syncInfo
    let start : Remediation :=
      { working := s.fleet.status, contribution := { patch := [.setSyncInfo info] } }
    let r ← (s.lagging minReady items info).foldlM s.remedy start
    Cycle.announceAll s.fleet.key (s.summary r.deleted)
    pure r.contribution

end FleetMend
