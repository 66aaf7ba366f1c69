import FleetMend.Proofs.Pruning.Advance

/-!
What a circle of pruning leaves behind when it starts over.

* `FleetStatus.StartsOver`: the first phase again, without candidates, and with the pods substituted
  that were substituted before.
* `startsOver_of_ends`: that is what a step leaves which goes back to the first phase, whatever the
  status was.  So a pod that is still marked when the circle starts over stays marked.
* `substituted_after_reset`: where the candidates are lost, such pods are left.
-/

namespace FleetMend

/-- One status leads to another in which pruning is to look for a candidate and has none; the same
pods are substituted. -/
structure FleetStatus.StartsOver (s t : FleetStatus) : Prop where
  phase : t.pruningPhase = .findingCandidate
  candidates : t.healing.pruningOrNew.candidates = ∅
  substituted : t.healing.pruningOrNew.substituted = s.healing.pruningOrNew.substituted

/-- The changes that every return to the first phase is made of touch no substituted pod. -/
theorem FleetStatus.startsOver_clear (s : FleetStatus) :
    s.StartsOver (Patch.apply [.clearCandidates, .setPhase .findingCandidate] s) := by
  have moved := StatusOp.pruning_setPhase (StatusOp.clearCandidates.apply s).1 .findingCandidate
  have left := HealingStatus.pruningOrNew_of_some moved
  rw [StatusOp.pruningOrNew_clearCandidates] at left
  refine ⟨?_, ?_, ?_⟩
  · exact (congrArg PruningStatus.phase left).trans rfl
  · exact (congrArg PruningStatus.candidates left).trans rfl
  · exact (congrArg PruningStatus.substituted left).trans rfl

/-- Before pruning first runs there is nothing to leave behind. -/
theorem FleetStatus.startsOver_opening {s : FleetStatus}
    (moves : .setPhase .findingCandidate ∈ opening s) :
    s.StartsOver (Patch.apply (opening s) s) := by
  cases hp : s.healing.pruning with
  | none =>
    have left := pruningOrNew_opening s
    have new : s.healing.pruningOrNew = {} := by
      rw [HealingStatus.pruningOrNew, hp]
      rfl
    refine ⟨?_, ?_, congrArg PruningStatus.substituted left⟩
    · rw [pruningPhase, left, new]
    · rw [left, new]
  | some p =>
    rw [opening, hp] at moves
    cases moves

section

variable {timing : PruningTiming} {f : Fleet} {spec : PruningSpec} {now : Time}

/-- An advance that ends in the first phase again starts the circle over. -/
theorem Advance.startsOver {patch : Patch} {events : List Event} (a : Advance f patch events)
    (moves : .setPhase .findingCandidate ∈ patch)
    (back : (patch.apply f.status).pruningPhase = .findingCandidate) :
    f.status.StartsOver (patch.apply f.status) := by
  cases a with
  | stays => exact FleetStatus.startsOver_opening moves
  | takesOut =>
    -- The first phase is entered and left again at once.
    rw [Patch.apply_append] at back
    cases back
  | replaced | pruned => cases List.mem_singleton.1 moves
  | signalled =>
    rcases List.mem_append.1 moves with hm | hm
    · obtain ⟨key, -, hkey⟩ := List.mem_map.1 hm
      cases hkey
    · cases List.mem_singleton.1 hm
  | restored | reset => exact f.status.startsOver_clear

/-- **Starting over.**  A step that goes back to the first phase, from whatever status, leaves no
candidate, and leaves exactly the pods substituted that were substituted before. -/
theorem startsOver_of_ends {log : Errand.Log} {o : StepOutcome}
    (step : (pruneStep timing f spec now).Ends log o)
    (moves : .setPhase .findingCandidate ∈ o.patch)
    (back : (o.patch.apply f.status).pruningPhase = .findingCandidate) :
    f.status.StartsOver (o.patch.apply f.status) :=
  (Advance.of_ends step).startsOver moves back

end

/-! ### Lost candidates

The candidates are lost while a pod is substituted. -/

namespace Leftover

def substituted : SortedMap String Time :=
  SortedMap.empty.insert (candidateKey "osmosis-0" "default") ⟨0, false⟩

def fleet : Fleet :=
  { key := ⟨"default", "osmosis"⟩, spec := { replicas := 3 }
    status := { healing := { pruning := some { phase := .waitingForComplete, substituted } } } }

def spec : PruningSpec := { trigger := 80 }

def reset : StepOutcome := Sight.outcome default {} fleet spec ⟨10, false⟩

theorem ends_reset : (pruneStep {} fleet spec ⟨10, false⟩).Ends [] reset :=
  ends_pruneStep_iff.2 ⟨default, rfl, rfl⟩

theorem patch_reset : reset.patch = [.clearCandidates, .setPhase .findingCandidate] := rfl

end Leftover

open Leftover in
/-- The circle starts over without candidates, and the pod stays substituted. -/
theorem startsOver_of_ends_lost :
    (pruneStep {} fleet spec ⟨10, false⟩).Ends [] reset ∧
      .setPhase .findingCandidate ∈ reset.patch ∧
      (reset.patch.apply fleet.status).pruningPhase = .findingCandidate ∧
      (reset.patch.apply fleet.status).healing.pruningOrNew.candidates = ∅ ∧
      (reset.patch.apply fleet.status).healing.pruningOrNew.substituted = substituted := by
  have moves : .setPhase .findingCandidate ∈ reset.patch := by
    rw [patch_reset]
    exact List.mem_cons_of_mem _ List.mem_cons_self
  have anew := startsOver_of_ends ends_reset moves rfl
  exact ⟨ends_reset, moves, anew.phase, anew.candidates, anew.substituted⟩

open Leftover in
/-- **Not all is cleared.**  A step that starts the circle over may leave a pod substituted. -/
theorem substituted_after_reset :
    ¬∀ (timing : PruningTiming) (f : Fleet) (spec : PruningSpec) (now : Time) (log : Errand.Log)
        (o : StepOutcome),
      (pruneStep timing f spec now).Ends log o → .setPhase .findingCandidate ∈ o.patch →
        (o.patch.apply f.status).pruningPhase = .findingCandidate →
        (o.patch.apply f.status).healing.pruningOrNew.candidates = ∅ ∧
          (o.patch.apply f.status).healing.pruningOrNew.substituted = ∅ := by
  intro clears
  have moves : .setPhase .findingCandidate ∈ reset.patch := by
    rw [patch_reset]
    exact List.mem_cons_of_mem _ List.mem_cons_self
  obtain ⟨-, none⟩ := clears {} fleet spec ⟨10, false⟩ [] reset ends_reset moves rfl
  exact absurd none (by decide)

end FleetMend
