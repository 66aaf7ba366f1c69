import FleetMend.Failures
import FleetMend.Quantity.Error

/-!
Why a fleet's health could not be judged.

* `HealthError.message`: the reason in words.
-/

namespace FleetMend

inductive HealthError
  /-- The increase is neither a percentage nor a size, for these two reasons. -/
  | invalidIncrease (increase : String) (causes : Failures QuantityError)
  /-- The volume would outgrow the range of sizes. -/
  | capacityOverflow (increase : String)
  | collectionFailed (reason : String)
  | timedOut (operation : String) (millis : Nat)
deriving DecidableEq

/-- An operation that took longer than the given milliseconds. -/
def timeoutMessage (operation : String) (millis : Nat) : String :=
  s!"{operation} timed out after {millis}ms"

namespace HealthError

def message : HealthError → String
  | invalidIncrease increase causes =>
    s!"invalid increase quantity {Text.quoted increase}: {causes.text QuantityError.message}"
  | capacityOverflow increase =>
    s!"increasing by {Text.quoted increase} overflows the volume size"
  | collectionFailed reason => s!"collection failed: {reason}"
  | timedOut operation millis => timeoutMessage operation millis

end HealthError

end FleetMend
