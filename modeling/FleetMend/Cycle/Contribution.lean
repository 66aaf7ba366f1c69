import FleetMend.Cycle.Query
import FleetMend.Patch

/-!
What one evaluator adds to a cycle.

* `Contribution`: changes, failures and events that wait for the changes to be stored.
* `Contribution.append`: what two evaluators add, one after the other.
-/

namespace FleetMend

structure Contribution where
  patch : Patch := []
  failures : List ControlError := []
  /-- The events that announce the changes; they are told once the changes are stored. -/
  actions : List Event := []
  /-- The milliseconds after which the evaluator wants the next cycle, if it matters. -/
  requeueAfter : Option Nat := none

namespace Contribution

instance : Inhabited Contribution := ⟨{}⟩

/-- Nothing but a failure. -/
def failed (e : ControlError) : Contribution := { failures := [e] }

def append (a b : Contribution) : Contribution where
  patch := a.patch ++ b.patch
  failures := a.failures ++ b.failures
  actions := a.actions ++ b.actions
  requeueAfter := a.requeueAfter.merge min b.requeueAfter

instance : Append Contribution := ⟨append⟩

@[simp] theorem patch_append (a b : Contribution) : (a ++ b).patch = a.patch ++ b.patch := rfl

@[simp] theorem failures_append (a b : Contribution) :
    (a ++ b).failures = a.failures ++ b.failures := rfl

@[simp] theorem actions_append (a b : Contribution) :
    (a ++ b).actions = a.actions ++ b.actions := rfl

end Contribution

end FleetMend
