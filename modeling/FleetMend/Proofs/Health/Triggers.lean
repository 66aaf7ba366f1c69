import FleetMend.Patch

/-!
The regenerations that a patch sets off.

* `FleetStatus.failureLog`: the failures of a pod, as they are counted.
* `Patch.triggers`: the pods with a failure too many where a patch is applied, in order.
  `Patch.answers`: for each of its changes, whether it is such a failure.
* `StatusOp.failureLog_of_mem_triggers`: the log of such a pod is emptied, and marked.
* `Patch.mem_triggers_congr`: whether a patch sets off the regeneration of a pod depends on the
  failures of this pod alone.
-/

namespace FleetMend

/-- The failures of a pod; none where none were ever logged. -/
def FleetStatus.failureLog (s : FleetStatus) (pod : String) : FailureLog :=
  (s.healing.failures.find? pod).getD {}

/-- The change logs a failure. -/
def StatusOp.logs : StatusOp → Bool
  | recordFailure .. => true
  | _ => false

/-- The pod with a failure too many, if it has one by this change. -/
def StatusOp.triggers (op : StatusOp) (s : FleetStatus) : List String :=
  match op with
  | recordFailure pod .. => if (op.apply s).2 then [pod] else []
  | _ => []

/-- The pods with a failure too many where the patch is applied. -/
def Patch.triggers : Patch → FleetStatus → List String
  | [], _ => []
  | op :: p, s => op.triggers s ++ triggers p (op.apply s).1

/-- For each change of the patch whether it is a failure too many, where the patch is applied. -/
def Patch.answers : Patch → FleetStatus → List Bool
  | [], _ => []
  | op :: p, s => (op.apply s).2 :: answers p (op.apply s).1

/-- The pod whose failure the change logs. -/
def StatusOp.fails? : StatusOp → Option String
  | recordFailure pod .. => some pod
  | _ => none

variable {s t : FleetStatus} {op : StatusOp} {p q : Patch} {name pod : String} {time : Time}
  {tracker : Tracker}

/-! ### One change -/

namespace StatusOp

theorem exceeded_recordFailure :
    ((recordFailure pod time tracker).apply s).2 = (tracker.record (s.failureLog pod) time).2 :=
  rfl

/-- A failure is logged for its pod, and for no other. -/
theorem find?_failures_recordFailure :
    ((recordFailure pod time tracker).apply s).1.healing.failures.find? name =
      if name = pod then some (tracker.record (s.failureLog pod) time).1
      else s.healing.failures.find? name :=
  SortedMap.find?_insert ..

theorem failureLog_recordFailure :
    ((recordFailure pod time tracker).apply s).1.failureLog name =
      if name = pod then (tracker.record (s.failureLog pod) time).1 else s.failureLog name := by
  rw [FleetStatus.failureLog, find?_failures_recordFailure]
  split <;> rfl

theorem failureLog_of_not_logs (h : op.logs = false) :
    (op.apply s).1.failureLog name = s.failureLog name := by
  cases op with
  | recordFailure => cases h
  | setSyncInfo | requestResize | setPhase | addCandidate | clearSubstitution | clearCandidates =>
    rfl

theorem triggers_of_not_logs (h : op.logs = false) : op.triggers s = [] := by
  cases op with
  | recordFailure => cases h
  | setSyncInfo | requestResize | setPhase | addCandidate | clearSubstitution | clearCandidates =>
    rfl

theorem mem_triggers_recordFailure :
    name ∈ (recordFailure pod time tracker).triggers s ↔
      name = pod ∧ (tracker.record (s.failureLog pod) time).2 = true := by
  rw [triggers, exceeded_recordFailure]
  split
  · next h => simp [h]
  · next h => simp [h]

/-- The failures of a pod that has one too many count no more, and its claim is marked. -/
theorem failureLog_of_mem_triggers (h : name ∈ op.triggers s) :
    (op.apply s).1.failureLog name = ⟨[], .regenerating⟩ := by
  cases op with
  | recordFailure pod time tracker =>
    obtain ⟨rfl, exceeded⟩ := mem_triggers_recordFailure.1 h
    rw [failureLog_recordFailure, if_pos rfl, Tracker.log_of_exceeded exceeded]
  | setSyncInfo | requestResize | setPhase | addCandidate | clearSubstitution | clearCandidates =>
    cases h

/-- What a change makes of the failures of a pod depends on these alone. -/
theorem failureLog_congr (h : s.failureLog name = t.failureLog name) :
    (op.apply s).1.failureLog name = (op.apply t).1.failureLog name := by
  cases op with
  | recordFailure pod =>
    rw [failureLog_recordFailure, failureLog_recordFailure]
    split
    · next same => rw [← same, h]
    · exact h
  | setSyncInfo | requestResize | setPhase | addCandidate | clearSubstitution | clearCandidates =>
    exact h

theorem mem_triggers_congr (h : s.failureLog name = t.failureLog name) :
    name ∈ op.triggers s ↔ name ∈ op.triggers t := by
  cases op with
  | recordFailure pod =>
    rw [mem_triggers_recordFailure, mem_triggers_recordFailure]
    exact and_congr_right fun same => by rw [← same, h]
  | setSyncInfo | requestResize | setPhase | addCandidate | clearSubstitution | clearCandidates =>
    exact Iff.rfl

end StatusOp

namespace StatusOp

/-- Whether a change is a failure too many depends on the failures alone. -/
theorem answer_congr (h : ∀ name, s.failureLog name = t.failureLog name) :
    (op.apply s).2 = (op.apply t).2 := by
  cases op with
  | recordFailure pod => rw [exceeded_recordFailure, exceeded_recordFailure, h pod]
  | setSyncInfo | requestResize | setPhase | addCandidate | clearSubstitution | clearCandidates =>
    rfl

/-- A change leaves the failures of all pods but the one whose failure it logs. -/
theorem find?_failures_apply (h : op.fails? ≠ some name) :
    (op.apply s).1.healing.failures.find? name = s.healing.failures.find? name := by
  cases op with
  | recordFailure pod time tracker =>
    rw [find?_failures_recordFailure, if_neg fun same => h (congrArg some same.symm)]
  | setSyncInfo | requestResize | setPhase | addCandidate | clearSubstitution | clearCandidates =>
    rfl

end StatusOp

/-! ### All changes -/

namespace Patch

theorem answers_append : answers (p ++ q) s = answers p s ++ answers q (p.apply s) := by
  induction p generalizing s with
  | nil => rfl
  | cons op p ih => rw [List.cons_append, answers, answers, ih, apply_cons, List.cons_append]

theorem answers_congr (h : ∀ name, s.failureLog name = t.failureLog name) :
    answers p s = answers p t := by
  induction p generalizing s t with
  | nil => rfl
  | cons op p ih =>
    rw [answers, answers, StatusOp.answer_congr h,
      ih fun name => StatusOp.failureLog_congr (h name)]

theorem find?_failures_apply (h : ∀ op ∈ p, op.fails? ≠ some name) :
    (p.apply s).healing.failures.find? name = s.healing.failures.find? name := by
  induction p generalizing s with
  | nil => rfl
  | cons op p ih =>
    obtain ⟨hop, hp⟩ := List.forall_mem_cons.1 h
    rw [apply_cons, ih hp, StatusOp.find?_failures_apply hop]

theorem triggers_append : triggers (p ++ q) s = triggers p s ++ triggers q (p.apply s) := by
  induction p generalizing s with
  | nil => rfl
  | cons op p ih =>
    rw [List.cons_append, triggers, triggers, ih, apply_cons, List.append_assoc]

/-- A patch that logs no failure leaves the failures as they are, and sets nothing off. -/
theorem failureLog_of_not_logs (h : ∀ op ∈ p, op.logs = false) :
    (p.apply s).failureLog name = s.failureLog name := by
  induction p generalizing s with
  | nil => rfl
  | cons op p ih =>
    obtain ⟨hop, hp⟩ := List.forall_mem_cons.1 h
    rw [apply_cons, ih hp, StatusOp.failureLog_of_not_logs hop]

theorem triggers_of_not_logs (h : ∀ op ∈ p, op.logs = false) : p.triggers s = [] := by
  induction p generalizing s with
  | nil => rfl
  | cons op p ih =>
    obtain ⟨hop, hp⟩ := List.forall_mem_cons.1 h
    rw [triggers, ih hp, StatusOp.triggers_of_not_logs hop, List.append_nil]

/-- **Only its own failures count.**  Whether a patch sets off the regeneration of a pod depends on
the failures of this pod alone, whatever else the status says. -/
theorem mem_triggers_congr (h : s.failureLog name = t.failureLog name) :
    name ∈ p.triggers s ↔ name ∈ p.triggers t := by
  induction p generalizing s t with
  | nil => exact Iff.rfl
  | cons op p ih =>
    rw [triggers, triggers, List.mem_append, List.mem_append]
    exact or_congr (StatusOp.mem_triggers_congr h) (ih (StatusOp.failureLog_congr h))

end Patch

end FleetMend
