import FleetMend.Health.Error

/-!
Why pruning did not get on.

* `PruneError.message`: the reason in words.
* `PruneError.isTransient`, `PruneError.isPending`: whether it passes by itself, and whether it is
  only a wait for the pods.
-/

namespace FleetMend

inductive PruneError
  /-- No pod is taken out for pruning: what is noted down no longer fits. -/
  | noCandidates
  | listPods (reason : String)
  | collectUsage (reason : String)
  /-- The pod that should be substituted is still there. -/
  | notReplaced (pod : String)
  /-- The pod that should be back is not there. -/
  | notRestored (pod : String)
  | timedOut (operation : String) (millis : Nat)
deriving DecidableEq

namespace PruneError

def message : PruneError → String
  | noCandidates => "there are no candidates"
  | listPods reason => s!"list pods: {reason}"
  | collectUsage reason => s!"collect disk usage: {reason}"
  | notReplaced pod => s!"pod {pod} not replaced yet"
  | notRestored pod => s!"pod {pod} not restored yet"
  | timedOut operation millis => timeoutMessage operation millis

def isTransient (e : PruneError) : Bool := e != noCandidates

def isPending : PruneError → Bool
  | notReplaced _ | notRestored _ => true
  | _ => false

end PruneError

end FleetMend
