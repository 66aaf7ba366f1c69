import FleetMend.Fleet.Pod
import FleetMend.Share

/-!
How many pods may be taken down at once.

* `disruptionBudget`: the most pods that leave enough of them ready.
* `availablePods`: the pods that have been ready for long enough.
-/

namespace FleetMend

/-- How many pods may be taken down, from the setting, the desired count and the ready count. -/
abbrev BudgetRule := Option Share → UInt32 → Nat → Nat

/-- The pods that may be unavailable: one where the setting is left out or makes no sense, and
between one and the desired count in any case. -/
def allowedUnavailable (maxUnavailable : Option Share) (desired : UInt32) : Int :=
  let resolved : Int := match maxUnavailable with
    | none => 1
    | some share =>
      match share.resolve (Int64.ofNat desired.toNat) false with
      | .ok n => n.toInt
      | .error _ => 1
  max 1 (min resolved desired.toNat)

/-- The pods that may be taken down so that the desired count less the allowed stays ready, at most
the allowed. -/
def disruptionBudget : BudgetRule := fun maxUnavailable desired ready =>
  if desired = 0 then 0
  else
    let allowed := allowedUnavailable maxUnavailable desired
    let keep := (desired.toNat : Int) - allowed
    (max 0 (min (ready - keep) allowed)).toNat

/-- The time for which a pod has to be ready before it counts, where nothing else is set. -/
def defaultMinReady : Span := .ofSecs 5

/-- The pod has been ready at `now` for at least `minReady`. -/
def Pod.isAvailable (p : Pod) (minReady : Span) (now : Time) : Bool :=
  match p.readySince.bind now.since? with
  | some readyFor => minReady ≤ readyFor
  | none => false

def availablePods (pods : List Pod) (minReady : Span) (now : Time) : List Pod :=
  pods.filter (·.isAvailable minReady now)

end FleetMend
