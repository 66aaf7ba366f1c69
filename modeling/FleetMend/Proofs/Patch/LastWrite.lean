import FleetMend.Proofs.Health.Triggers
import FleetMend.Proofs.Health.Window

/-!
What a patch leaves behind, and what it leaves behind when it is applied again.

* `Location`: the parts of a status that are written one by one.  `Location.ext`: a status is what
  stands at its locations.
* `Patch.content_apply`: a patch that logs no failure leaves at a location the last that it writes
  there; what stood there before where it writes nothing.
* `Patch.apply_twice`: such a patch may be applied again.  A failure may not be logged again, unless
  one is too many already.
-/

namespace FleetMend

/-! ### The parts of a status -/

/-- A part of a status that is written on its own. -/
inductive Location
  | syncInfo
  | resize (volume : String)
  | failures (pod : String)
  /-- Whether there is a status of pruning. -/
  | begun
  | phase
  | candidate (key : String)
  | substitution (key : String)
deriving DecidableEq

namespace Location

/-- What may stand at a location. -/
abbrev Content : Location → Type
  | syncInfo => SortedMap String SyncInfo
  | resize _ => Option ResizeRequest
  | failures _ => Option FailureLog
  | begun => Bool
  | phase => PruningPhase
  | candidate _ => Option Candidate
  | substitution _ => Option Time

/-- What stands at a location. -/
def content : (l : Location) → FleetStatus → l.Content
  | syncInfo, s => s.syncInfo
  | resize volume, s => s.healing.resizes.find? volume
  | failures pod, s => s.healing.failures.find? pod
  | begun, s => s.healing.pruning.isSome
  | phase, s => s.healing.pruningOrNew.phase
  | candidate key, s => s.healing.pruningOrNew.candidates.find? key
  | substitution key, s => s.healing.pruningOrNew.substituted.find? key

/-- A status is what stands at its locations. -/
theorem ext {s t : FleetStatus} (h : ∀ l : Location, l.content s = l.content t) : s = t := by
  obtain ⟨syncInfo, resizes, failures, pruning⟩ := s
  obtain ⟨syncInfo', resizes', failures', pruning'⟩ := t
  obtain rfl : syncInfo = syncInfo' := h .syncInfo
  obtain rfl : resizes = resizes' := SortedMap.ext_find? fun volume => h (.resize volume)
  obtain rfl : failures = failures' := SortedMap.ext_find? fun pod => h (.failures pod)
  obtain rfl : pruning = pruning' := by
    have begun : pruning.isSome = pruning'.isSome := h .begun
    match pruning, pruning' with
    | none, none => rfl
    | some p, some p' =>
      obtain ⟨now, candidates, substituted⟩ := p
      obtain ⟨now', candidates', substituted'⟩ := p'
      obtain rfl : now = now' := h .phase
      obtain rfl : candidates = candidates' := SortedMap.ext_find? fun key => h (.candidate key)
      obtain rfl : substituted = substituted' :=
        SortedMap.ext_find? fun key => h (.substitution key)
      rfl
    | none, some _ | some _, none => cases begun
  rfl

end Location

/-! ### One change -/

namespace StatusOp

/-- What a change writes to a location, if it writes there.  That a failure is logged is no such
change: what it writes depends on what stands there. -/
def writes : StatusOp → (l : Location) → Option l.Content
  | setSyncInfo info, .syncInfo => some info
  | requestResize volume request, .resize v => if v = volume then some (some request) else none
  | setPhase _, .begun => some true
  | setPhase phase, .phase => some phase
  | addCandidate .., .begun => some true
  | addCandidate key candidate _, .candidate k => if k = key then some (some candidate) else none
  | addCandidate key _ startedAt, .substitution k =>
    if k = key then some (some startedAt) else none
  | clearSubstitution key, .substitution k => if k = key then some none else none
  | clearCandidates, .candidate _ => some none
  | _, _ => none

variable {s : FleetStatus} {op : StatusOp} {l : Location}

/-- A change leaves at a location what it writes there, or what stood there. -/
theorem content_apply (h : op.logs = false) :
    l.content (op.apply s).1 = (op.writes l).getD (l.content s) := by
  cases op with
  | recordFailure => cases h
  | setSyncInfo info => cases l <;> rfl
  | requestResize volume request =>
    cases l with
    | resize v =>
      exact (SortedMap.find?_insert ..).trans (by simp only [writes]; split <;> rfl)
    | _ => rfl
  | setPhase phase => cases l <;> rfl
  | addCandidate key candidate startedAt =>
    cases l with
    | candidate k | substitution k =>
      exact (SortedMap.find?_insert ..).trans (by simp only [writes]; split <;> rfl)
    | _ => rfl
  | clearSubstitution key =>
    cases l with
    | begun => exact Option.isSome_map
    | phase | candidate => rw [Location.content, pruningOrNew_clearSubstitution]; rfl
    | substitution k =>
      rw [Location.content, pruningOrNew_clearSubstitution, SortedMap.find?_erase, writes]
      split <;> rfl
    | syncInfo | resize | failures => rfl
  | clearCandidates =>
    cases l with
    | begun => exact Option.isSome_map
    | phase | candidate | substitution => rw [Location.content, pruningOrNew_clearCandidates]; rfl
    | syncInfo | resize | failures => rfl

end StatusOp

/-! ### All changes -/

namespace Patch

variable {p : Patch} {s : FleetStatus} {l : Location}

/-- What a patch writes to a location, in order. -/
def written (p : Patch) (l : Location) : List l.Content := p.filterMap fun op => op.writes l

/-- A patch leaves at a location the last that it writes there, or what stood there. -/
theorem content_apply (h : ∀ op ∈ p, op.logs = false) :
    l.content (p.apply s) = (p.written l).getLast?.getD (l.content s) := by
  induction p generalizing s with
  | nil => rfl
  | cons op p ih =>
    obtain ⟨hop, hp⟩ := List.forall_mem_cons.1 h
    rw [apply_cons, ih hp, StatusOp.content_apply hop, written, written, List.filterMap_cons]
    cases op.writes l with
    | none => rfl
    | some c => rw [List.getLast?_cons]; rfl

/-- What a patch leaves at a location it leaves there again. -/
theorem apply_apply (h : ∀ op ∈ p, op.logs = false) : p.apply (p.apply s) = p.apply s := by
  refine Location.ext fun l => ?_
  rw [content_apply h, content_apply h]
  cases (p.written l).getLast? with
  | none => rfl
  | some c => rfl

end Patch

/-! ### A failure -/

namespace Tracker

variable {k : Tracker} {log : FailureLog} {now : Time}

/-- What is left in the log of a failure still counts when the failure is logged again. -/
theorem recent_times_record :
    k.recent now (k.record log now).1.times = (k.record log now).1.times := by
  rw [(record_eq k log now).2]
  split
  · rfl
  · exact recent_recent fun a _ => Int.le_refl _

/-- Where a single failure is too many, each is. -/
theorem log_of_threshold_le_one (h : k.threshold.toNat ≤ 1) :
    (k.record log now).1 = ⟨[], .regenerating⟩ := by
  refine log_of_exceeded ((record_eq k log now).1.2 ?_)
  rw [recent_append, recent_self, List.length_append, List.length_singleton]
  omega

/-- A failure logged twice is counted twice, unless it is one too many each time. -/
theorem record_record_iff :
    (k.record (k.record log now).1 now).1 = (k.record log now).1 ↔ k.threshold.toNat ≤ 1 := by
  refine ⟨fun same => ?_, fun h => ?_⟩
  · obtain ⟨answer, logged⟩ := record_eq k (k.record log now).1 now
    rw [recent_append, recent_times_record, recent_self] at answer logged
    rw [same] at logged
    cases told : (k.record (k.record log now).1 now).2 with
    | false =>
      -- The log would be one failure longer than itself.
      rw [told] at logged
      simpa using congrArg List.length logged
    | true =>
      have emptied : (k.record log now).1.times = [] := by simpa [told] using logged
      simpa [emptied] using answer.1 told
  · rw [log_of_threshold_le_one h, log_of_threshold_le_one h]

end Tracker

/-- A failure logged twice leaves what it leaves when logged once where it is one too many each
time. -/
theorem StatusOp.recordFailure_twice_iff {pod : String} {time : Time} {tracker : Tracker}
    {s : FleetStatus} :
    ((recordFailure pod time tracker).apply ((recordFailure pod time tracker).apply s).1).1 =
        ((recordFailure pod time tracker).apply s).1 ↔
      tracker.threshold.toNat ≤ 1 := by
  rw [← @Tracker.record_record_iff tracker (s.failureLog pod) time]
  refine ⟨fun same => ?_, fun same => Location.ext fun l => ?_⟩
  · have logs := congrArg (·.failureLog pod) same
    simpa only [failureLog_recordFailure, if_pos] using logs
  · cases l with
    | failures name =>
      simp only [Location.content, find?_failures_recordFailure, failureLog_recordFailure, if_pos,
        same]
      split <;> rfl
    | syncInfo | resize | begun | phase | candidate | substitution => rfl

/-! ### Applied again -/

/-- **Applied again.**  A patch that logs no failure changes nothing when it is applied again, in
whatever order its changes stand and however often each.  A failure that is logged again counts
again, unless a single one is too many already. -/
theorem Patch.apply_twice (s : FleetStatus) :
    (∀ p : Patch, (∀ op ∈ p, op.logs = false) → p.apply (p.apply s) = p.apply s) ∧
      ∀ (pod : String) (time : Time) (tracker : Tracker),
        let p : Patch := [.recordFailure pod time tracker]
        p.apply (p.apply s) = p.apply s ↔ tracker.threshold.toNat ≤ 1 :=
  ⟨fun _ h => apply_apply h, fun _ _ _ => StatusOp.recordFailure_twice_iff⟩

/-- The first change finds nothing to clear where there is no status of pruning; when the patch is
applied again it clears what the second has put there, and the second puts it there again. -/
theorem Patch.apply_twice_cleared :
    let start : Time := ⟨0, false⟩
    let p : Patch := [.clearSubstitution "a", .addCandidate "a" ⟨"fleet-0", "default"⟩ start,
      .clearCandidates, .addCandidate "b" ⟨"fleet-1", "default"⟩ start,
      .setPhase .waitingForComplete]
    (∀ op ∈ p, op.logs = false) ∧ p.apply (p.apply {}) = p.apply {} ∧
      (p.apply {}).healing.pruning =
        some ⟨.waitingForComplete, .ofList [("b", ⟨"fleet-1", "default"⟩)],
          .ofList [("a", start), ("b", start)]⟩ := by
  intro start p
  have quiet : ∀ op ∈ p, op.logs = false := by simp [p, StatusOp.logs]
  exact ⟨quiet, (Patch.apply_twice {}).1 p quiet, by decide⟩

end FleetMend
