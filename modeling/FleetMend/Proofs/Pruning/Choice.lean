import FleetMend.Proofs.Pruning.Advance
import FleetMend.Proofs.Pruning.Fullest

/-!
Which pod a step of pruning takes out.

* `of_chooseCandidate`: the pod chosen is synced, and enough others are.
* `Sight.chosen_of_addCandidate`: a step that takes a pod out has chosen it among the synced pods
  that it was given.
-/

namespace FleetMend

/-- The change registers a candidate. -/
def StatusOp.addsCandidate : StatusOp → Bool
  | addCandidate .. => true
  | _ => false

/-! ### The choice -/

/-- The pod chosen is synced, and as many others as have to remain are. -/
theorem of_chooseCandidate {spec : PruningSpec} {synced : List Pod} {usage : List DiskUsage}
    {pod : Pod} (h : chooseCandidate spec synced usage = some pod) :
    pod ∈ synced ∧ spec.keepAvailable.toNat + 1 ≤ synced.length := by
  obtain ⟨spare, v, -, before, after, rfl, -⟩ := chooseCandidate_eq_some_iff.1 h
  exact ⟨List.mem_append_right before List.mem_cons_self, spare⟩

/-! ### The step -/

variable {timing : PruningTiming} {f : Fleet} {spec : PruningSpec} {now : Time}

theorem addsCandidate_of_mem_opening {s : FleetStatus} {op : StatusOp} (h : op ∈ opening s) :
    op.addsCandidate = false := by
  unfold opening at h
  split at h
  · rw [List.mem_singleton.1 h]
    rfl
  · cases h

/-- A pod is only taken out while one is looked for. -/
theorem Advance.phase_of_addsCandidate {patch : Patch} {events : List Event}
    (a : Advance f patch events) {op : StatusOp} (hm : op ∈ patch) (h : op.addsCandidate = true) :
    f.status.pruningPhase = .findingCandidate := by
  cases a with
  | stays =>
    rw [addsCandidate_of_mem_opening hm] at h
    cases h
  | takesOut pod now phase => exact phase
  | signalled =>
    rcases List.mem_append.1 hm with hm | hm
    · obtain ⟨key, -, rfl⟩ := List.mem_map.1 hm
      cases h
    · rw [List.mem_singleton.1 hm] at h
      cases h
  | replaced | pruned =>
    rw [List.mem_singleton.1 hm] at h
    cases h
  | restored | reset =>
    rcases List.mem_cons.1 hm with rfl | hm
    · cases h
    · rw [List.mem_singleton.1 hm] at h
      cases h

/-- A pod that is taken out was chosen among the synced pods that the step was given. -/
theorem Sight.chosen_of_addCandidate {x : Sight} {key : String} {candidate : Candidate}
    {since : Time} (h : .addCandidate key candidate since ∈ (x.outcome timing f spec now).patch) :
    ∃ items usage pod,
      ⟨Request.callWithin (.collectStatus f) timing.candidateTimeout,
        (some items : Option (List StatusItem))⟩ ∈ x.asked timing f ∧
      chooseCandidate spec (syncedPods items) usage = some pod ∧
      candidate = ⟨pod.name, pod.space⟩ := by
  -- Only the search adds a candidate, and what precedes it in the patch does not.
  have phase := (Advance.of_ends (ends_pruneStep_iff.2 ⟨x, rfl, rfl⟩)).phase_of_addsCandidate h rfl
  have absent (hm : .addCandidate key candidate since ∈ opening f.status) : False := by
    cases addsCandidate_of_mem_opening hm
  unfold Sight.outcome Sight.search at h
  unfold Sight.asked Sight.searched
  rw [phase] at h ⊢
  cases hu : used timing.ioTimeout x.usage with
  | error e =>
    simp only [hu] at h
    exact (absent h).elim
  | ok usage =>
    simp only [hu] at h ⊢
    cases hi : x.items with
    | none =>
      rw [hi] at h
      exact (absent h).elim
    | some items =>
      rw [hi, found] at h
      cases hc : chooseCandidate spec (syncedPods items) usage with
      | none =>
        rw [hc] at h
        exact (absent h).elim
      | some pod =>
        rw [hc] at h
        refine ⟨items, usage, pod, List.mem_cons_of_mem _ (List.mem_singleton_self _), hc, ?_⟩
        rcases List.mem_append.1 h with h | h
        · exact (absent h).elim
        · rcases List.mem_cons.1 h with h | h
          · cases h
            rfl
          · cases List.mem_singleton.1 h

end FleetMend
