import FleetMend.Cluster.Call
import FleetMend.Patch
import FleetMend.Settings.Basic

/-!
Writing a patch to the stored status.

* `persist`: reads the fleet, applies the patch, and writes the status back under the version that
  was read; a write that meets a conflict starts over, as often as the policy allows.
-/

namespace FleetMend

/-- A call to read a fleet that has to be there. -/
def readExisting (key : FleetKey) : Errand (Except ControlError Fleet) := do
  match ← Errand.call (.readFleet key) with
  | .error e => pure (.error e)
  | .ok none => pure (.error (.notFound "resource" key.text))
  | .ok (some fleet) => pure (.ok fleet)

/-- The attempts that a policy allows. -/
def RetryPolicy.limit (policy : RetryPolicy) : Nat := max 1 policy.attempts.toNat

/-- The pause before another attempt; none after the last. -/
def RetryPolicy.pauseBefore (policy : RetryPolicy) (left : Nat) : Errand Unit :=
  if left = 0 then pure () else Errand.pause policy.backoff policy.jitter

/-- One attempt to write a patch; `again` is what comes after a conflict. -/
def attempt (key : FleetKey) (patch : Patch) (again : Errand (Except ControlError Unit)) :
    Errand (Except ControlError Unit) := do
  match ← readExisting key with
  | .error e => pure (.error e)
  | .ok fleet =>
    let status := patch.apply fleet.status
    if status == fleet.status then pure (.ok ())
    else
      match ← Errand.call (.writeStatus key fleet.version status) with
      | .ok _ => pure (.ok ())
      | .error e => if e.isConflict then again else pure (.error e)

/-- The attempts to write a patch while so many are left. -/
def persistLeft (policy : RetryPolicy) (key : FleetKey) (patch : Patch) :
    Nat → Errand (Except ControlError Unit)
  | 0 => pure (.error (.retriesExhausted key policy.limit))
  | left + 1 => attempt key patch do
    policy.pauseBefore left
    persistLeft policy key patch left

/-- Writes a patch to the stored status; a patch that changes nothing is not written. -/
def persist (policy : RetryPolicy) (key : FleetKey) (patch : Patch) :
    Errand (Except ControlError Unit) :=
  persistLeft policy key patch policy.limit

end FleetMend
