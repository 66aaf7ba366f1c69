import FleetMend.Health.FailureWindow

/-!
Changes to a status that are written down first and made later, on whatever the status is by then.

* `StatusOp.apply`: one change, and whether it set off a regeneration.
* `StatusOp.pruning_setPhase` and its like: what one change does to the status of pruning.
* `Patch.apply`: the changes of a cycle, one after the other.
-/

namespace FleetMend

/-- A change to a status. -/
inductive StatusOp
  | setSyncInfo (info : SortedMap String SyncInfo)
  | requestResize (volume : String) (request : ResizeRequest)
  | recordFailure (pod : String) (time : Time) (tracker : Tracker)
  | setPhase (phase : PruningPhase)
  | addCandidate (key : String) (candidate : Candidate) (startedAt : Time)
  | clearSubstitution (key : String)
  | clearCandidates

/-- The status of pruning, as it begins where there is none. -/
def HealingStatus.pruningOrNew (h : HealingStatus) : PruningStatus := h.pruning.getD {}

theorem HealingStatus.pruningOrNew_of_some {h : HealingStatus} {p : PruningStatus}
    (hp : h.pruning = some p) : h.pruningOrNew = p := by
  rw [pruningOrNew, hp]
  rfl

namespace FleetStatus

/-- Changes the healing. -/
def withHealing (s : FleetStatus) (f : HealingStatus → HealingStatus) : FleetStatus :=
  { s with healing := f s.healing }

/-- Changes the status of pruning, which comes into being where there is none. -/
def withPruning (s : FleetStatus) (f : PruningStatus → PruningStatus) : FleetStatus :=
  s.withHealing fun h => { h with pruning := some (f h.pruningOrNew) }

/-- Changes the status of pruning where there is one. -/
def updatePruning (s : FleetStatus) (f : PruningStatus → PruningStatus) : FleetStatus :=
  s.withHealing fun h => { h with pruning := h.pruning.map f }

/-- A change that leaves an empty status of pruning empty may be made where there is none. -/
theorem pruningOrNew_updatePruning (s : FleetStatus) {f : PruningStatus → PruningStatus}
    (empty : f {} = {}) : (s.updatePruning f).healing.pruningOrNew = f s.healing.pruningOrNew := by
  obtain ⟨_, ⟨_, _, pruning⟩⟩ := s
  cases pruning with
  | none => exact empty.symm
  | some p => rfl

end FleetStatus

namespace StatusOp

/-- The changed status, and whether a failure was one too many. -/
def apply (op : StatusOp) (s : FleetStatus) : FleetStatus × Bool :=
  match op with
  | setSyncInfo info => ({ s with syncInfo := info }, false)
  | requestResize volume request =>
    (s.withHealing fun h => { h with resizes := h.resizes.insert volume request }, false)
  | recordFailure pod time tracker =>
    let (log, exceeded) := tracker.record ((s.healing.failures.find? pod).getD {}) time
    (s.withHealing fun h => { h with failures := h.failures.insert pod log }, exceeded)
  | setPhase phase => (s.withPruning fun p => { p with phase }, false)
  | addCandidate key candidate startedAt =>
    (s.withPruning fun p =>
      { p with
        candidates := p.candidates.insert key candidate
        substituted := p.substituted.insert key startedAt }, false)
  | clearSubstitution key =>
    (s.updatePruning fun p => { p with substituted := p.substituted.erase key }, false)
  | clearCandidates => (s.updatePruning fun p => { p with candidates := ∅ }, false)

variable (s : FleetStatus)

@[simp] theorem pruning_setPhase (phase : PruningPhase) :
    ((setPhase phase).apply s).1.healing.pruning =
      some { s.healing.pruningOrNew with phase } := rfl

@[simp] theorem pruning_addCandidate (key : String) (candidate : Candidate) (startedAt : Time) :
    ((addCandidate key candidate startedAt).apply s).1.healing.pruning =
      some { s.healing.pruningOrNew with
        candidates := s.healing.pruningOrNew.candidates.insert key candidate
        substituted := s.healing.pruningOrNew.substituted.insert key startedAt } := rfl

@[simp] theorem pruning_clearSubstitution (key : String) :
    ((clearSubstitution key).apply s).1.healing.pruning =
      s.healing.pruning.map fun p => { p with substituted := p.substituted.erase key } := rfl

@[simp] theorem pruning_clearCandidates :
    (clearCandidates.apply s).1.healing.pruning =
      s.healing.pruning.map fun p => { p with candidates := ∅ } := rfl

@[simp] theorem pruningOrNew_clearSubstitution (key : String) :
    ((clearSubstitution key).apply s).1.healing.pruningOrNew =
      { s.healing.pruningOrNew with
        substituted := s.healing.pruningOrNew.substituted.erase key } :=
  s.pruningOrNew_updatePruning rfl

@[simp] theorem pruningOrNew_clearCandidates :
    (clearCandidates.apply s).1.healing.pruningOrNew =
      { s.healing.pruningOrNew with candidates := ∅ } :=
  s.pruningOrNew_updatePruning rfl

end StatusOp

/-- Changes in the order in which they are to be made. -/
abbrev Patch := List StatusOp

namespace Patch

def apply (p : Patch) (s : FleetStatus) : FleetStatus :=
  p.foldl (fun s op => (op.apply s).1) s

@[simp] theorem apply_nil (s : FleetStatus) : apply [] s = s := rfl

@[simp] theorem apply_cons (op : StatusOp) (p : Patch) (s : FleetStatus) :
    apply (op :: p) s = apply p (op.apply s).1 := rfl

theorem apply_append (p q : Patch) (s : FleetStatus) : apply (p ++ q) s = apply q (apply p s) :=
  List.foldl_append

end Patch

end FleetMend
