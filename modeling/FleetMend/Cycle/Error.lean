import FleetMend.Fleet.Key
import FleetMend.Pruning.Error

/-!
What can go wrong in a cycle.

* `ControlError.message`: the reason in words.
* `ignoreNotFound`: an object that is gone already is no failure.
-/

namespace FleetMend

inductive ControlError
  | notFound (kind name : String)
  /-- The fleet was written since it was read. -/
  | conflict (key : FleetKey) (expected actual : Nat)
  | retriesExhausted (key : FleetKey) (attempts : Nat)
  | gateway (reason : String)
  | timedOut (operation : String) (millis : Nat)
  | cancelled (operation : String)
  | health (e : HealthError)
  | prune (e : PruneError)
deriving DecidableEq

namespace ControlError

def message : ControlError → String
  | notFound kind name => s!"{kind} {name} not found"
  | conflict key expected actual =>
    s!"conflict updating {key.text}: expected version {expected}, found {actual}"
  | retriesExhausted key attempts =>
    s!"gave up persisting status of {key.text} after {attempts} attempts"
  | gateway reason => s!"gateway error: {reason}"
  | timedOut operation millis => timeoutMessage operation millis
  | cancelled operation => s!"{operation} cancelled"
  | health e => e.message
  | prune e => e.message

def isNotFound : ControlError → Bool
  | notFound .. => true
  | _ => false

def isConflict : ControlError → Bool
  | conflict .. => true
  | _ => false

def isCancelled : ControlError → Bool
  | cancelled _ => true
  | _ => false

end ControlError

/-- An object that is gone already is no failure. -/
def ignoreNotFound (r : Except ControlError Unit) : Except ControlError Unit :=
  match r with
  | .error e => if e.isNotFound then .ok () else .error e
  | .ok () => .ok ()

end FleetMend
