import FleetMend.Cluster.Call
import FleetMend.Patch
import FleetMend.Pruning.Choice

/-!
What pruning looks at before it goes on.

* `replacedVerdict`, `isComplete`, `restoredVerdict`: what a list of pods says about the candidates.
* `confirmReplaced`, `checkComplete`, `confirmRestored`: the same of the pods listed now.
* `findCandidate`: the pod to take out, of those synced now.
-/

namespace FleetMend

/-- The status of pruning, as long as a candidate is registered. -/
def Fleet.registered (f : Fleet) : Except PruneError PruningStatus :=
  match f.status.healing.pruning with
  | some s => if s.candidates.isEmpty then .error .noCandidates else .ok s
  | none => .error .noCandidates

/-- The names of the candidates, in the order of their keys. -/
def PruningStatus.pods (s : PruningStatus) : List String := s.candidates.values.map (·.pod)

/-! ### Verdicts -/

def isListed (pods : List Pod) (name : String) : Bool := pods.any fun p => p.name = name

/-- No candidate's own pod is listed any more. -/
def replacedVerdict (s : PruningStatus) (pods : List Pod) : Except PruneError Unit :=
  match s.pods.find? (isListed pods) with
  | some pod => .error (.notReplaced pod)
  | none => .ok ()

/-- The pruning of one candidate is over: its pruning pod has ended, or is gone. -/
def isPruned (pods : List Pod) (pod : String) : Bool :=
  match pods.find? fun p => p.name = prunerName pod with
  | some p => p.allTerminated
  | none => true

/-- The pruning of every candidate is over. -/
def isComplete (s : PruningStatus) (pods : List Pod) : Bool := s.pods.all (isPruned pods)

/-- Every candidate's own pod is listed again. -/
def restoredVerdict (s : PruningStatus) (pods : List Pod) : Except PruneError Unit :=
  match s.pods.find? fun pod => !isListed pods pod with
  | some pod => .error (.notRestored pod)
  | none => .ok ()

/-! ### Checks -/

def listPods (timeout : Nat) (f : Fleet) : Errand (Except PruneError (List Pod)) := do
  match ← Errand.callWithin (.listPods f) timeout with
  | none => pure (.error (.timedOut "list pods" timeout))
  | some (.error reason) => pure (.error (.listPods reason))
  | some (.ok pods) => pure (.ok pods)

/-- Judges the candidates by the pods listed now; without candidates there is nothing to list. -/
def judgeListed {α : Type} (timeout : Nat) (f : Fleet)
    (verdict : PruningStatus → List Pod → Except PruneError α) : Errand (Except PruneError α) :=
  match f.registered with
  | .error e => pure (.error e)
  | .ok s => do
    match ← listPods timeout f with
    | .error e => pure (.error e)
    | .ok pods => pure (verdict s pods)

def confirmReplaced (timeout : Nat) (f : Fleet) : Errand (Except PruneError Unit) :=
  judgeListed timeout f replacedVerdict

def checkComplete (timeout : Nat) (f : Fleet) : Errand (Except PruneError Bool) :=
  judgeListed timeout f fun s pods => .ok (isComplete s pods)

def confirmRestored (timeout : Nat) (f : Fleet) : Errand (Except PruneError Unit) :=
  judgeListed timeout f restoredVerdict

/-! ### Changes -/

/-- Takes a pod out: it becomes a candidate, and its pruning pod is to stand in for it. -/
def takeOut (pod : Pod) (now : Time) : StatusOp :=
  .addCandidate (candidateKey pod.name pod.space) ⟨pod.name, pod.space⟩ now

/-- Asks for every candidate's own pod again. -/
def restoration (f : Fleet) : Except PruneError Patch :=
  f.registered.map fun s => s.candidates.keys.map .clearSubstitution

/-! ### Candidates -/

def collectUsage (timeout : Nat) (f : Fleet) : Errand (Except PruneError (List DiskUsage)) := do
  match ← Errand.callWithin (.collectUsage f) timeout with
  | none => pure (.error (.timedOut "collect disk usage" timeout))
  | some (.error e) => pure (.error (.collectUsage e.message))
  | some (.ok usage) => pure (.ok usage)

/-- The pod to take out, of those synced now. -/
def findCandidate (timeout : Nat) (f : Fleet) (spec : PruningSpec) (usage : List DiskUsage) :
    Errand (Except PruneError (Option Pod)) := do
  match ← Errand.callWithin (.collectStatus f) timeout with
  | none => pure (.error (.timedOut "collect synced pods" timeout))
  | some items => pure (.ok (chooseCandidate spec (syncedPods items) usage))

end FleetMend
