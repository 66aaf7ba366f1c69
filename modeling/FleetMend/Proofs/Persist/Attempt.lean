import FleetMend.Cycle.Persist
import FleetMend.Proofs.Dialogue

/-!
An attempt to write a patch, request by request.

* `attempt_eq`: it reads the fleet, and goes on with `afterRead`.
* `persistLeft_succ`: while attempts are left, that is what there is to do.
-/

namespace FleetMend

variable {key : FleetKey} {patch : Patch} {again : Errand (Except ControlError Unit)}

/-- What follows the reply to the write of an attempt. -/
def afterWrite (again : Errand (Except ControlError Unit)) :
    Except ControlError Fleet → Errand (Except ControlError Unit)
  | .ok _ => .done (.ok ())
  | .error e => if e.isConflict then again else .done (.error e)

/-- What follows the reply to the read of an attempt. -/
def afterRead (key : FleetKey) (patch : Patch) (again : Errand (Except ControlError Unit)) :
    Except ControlError (Option Fleet) → Errand (Except ControlError Unit)
  | .error e => .done (.error e)
  | .ok none => .done (.error (.notFound "resource" key.text))
  | .ok (some f) =>
    if patch.apply f.status == f.status then .done (.ok ())
    else .ask (Request.call (.writeStatus key f.version (patch.apply f.status))) (afterWrite again)

theorem attempt_eq :
    attempt key patch again = .ask (Request.call (.readFleet key)) (afterRead key patch again) := by
  refine congrArg (Program.ask (Request.call (.readFleet key))) (funext fun reply => ?_)
  rcases reply with e | _ | f
  · rfl
  · rfl
  · change (if patch.apply f.status == f.status then _ else _) = _
    rw [afterRead]
    split
    · rfl
    · refine congrArg (Program.ask (Request.call (.writeStatus ..))) (funext fun reply => ?_)
      cases reply <;> rfl

/-- What an attempt does after a conflict, where so many more are left. -/
def retry (policy : RetryPolicy) (key : FleetKey) (patch : Patch) (left : Nat) :
    Errand (Except ControlError Unit) := do
  policy.pauseBefore left
  persistLeft policy key patch left

variable {policy : RetryPolicy}

@[simp] theorem persistLeft_zero :
    persistLeft policy key patch 0 = .done (.error (.retriesExhausted key policy.limit)) := rfl

theorem persistLeft_succ (left : Nat) :
    persistLeft policy key patch (left + 1) =
      .ask (Request.call (.readFleet key)) (afterRead key patch (retry policy key patch left)) :=
  attempt_eq

@[simp] theorem retry_zero :
    retry policy key patch 0 = .done (.error (.retriesExhausted key policy.limit)) := rfl

theorem retry_succ (left : Nat) :
    retry policy key patch (left + 1) =
      .ask (Request.pause policy.backoff policy.jitter) fun _ =>
        persistLeft policy key patch (left + 1) := rfl

/-- Writing a patch takes reads, writes and pauses, and nothing else. -/
theorem keeps_persistLeft {P : Request → Prop} (hread : P (.call (.readFleet key)))
    (hwrite : ∀ version status, P (.call (.writeStatus key version status)))
    (hpause : ∀ millis jitter, P (.pause millis jitter)) (left : Nat) :
    (persistLeft policy key patch left).Keeps P fun _ => True := by
  induction left with
  | zero => trivial
  | succ left ih =>
    have again : (retry policy key patch left).Keeps P fun _ => True := by
      cases left with
      | zero => trivial
      | succ left => exact ⟨hpause _ _, fun _ => ih⟩
    rw [persistLeft_succ]
    refine ⟨hread, fun reply => ?_⟩
    rcases reply with e | _ | f
    · trivial
    · trivial
    · change Program.Keeps P _ (if patch.apply f.status == f.status then _ else _)
      split
      · trivial
      · refine ⟨hwrite _ _, fun reply => ?_⟩
        rcases reply with e | g
        · change Program.Keeps P _ (if e.isConflict then _ else _)
          split
          · exact again
          · trivial
        · trivial

end FleetMend
