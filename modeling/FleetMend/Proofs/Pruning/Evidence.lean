import FleetMend.Proofs.Pruning.Advance

/-!
What a step of pruning has to see before it gets on.

* `Errand.Log.Lists`: a listing of the log gave the pods.
* `exists_listing_of_replaced`, `exists_listing_of_pruned`, `exists_listing_of_restored`: a step
  that leaves one of the three phases that wait has listed the pods, and found the candidates gone,
  pruned, or back.
-/

namespace FleetMend

/-- A listing among the calls succeeded and gave the pods. -/
def Errand.Log.Lists (log : Errand.Log) (pods : List Pod) : Prop :=
  ∃ (f : Fleet) (timeout : Nat),
    (⟨Request.callWithin (.listPods f) timeout,
      (some (.ok pods) : Option (Except String (List Pod)))⟩ :
        (q : Request) × q.Answer) ∈ log

/-! ### Favourable verdicts -/

theorem replacedVerdict_eq_ok_iff {s : PruningStatus} {pods : List Pod} :
    replacedVerdict s pods = .ok () ↔ ∀ p ∈ s.pods, isListed pods p = false := by
  unfold replacedVerdict
  cases h : s.pods.find? (isListed pods) with
  | none => simpa using h
  | some p =>
    refine iff_of_false (by simp) fun gone => ?_
    exact Bool.noConfusion ((gone p (List.mem_of_find?_eq_some h)).symm.trans (List.find?_some h))

theorem restoredVerdict_eq_ok_iff {s : PruningStatus} {pods : List Pod} :
    restoredVerdict s pods = .ok () ↔ ∀ p ∈ s.pods, isListed pods p = true := by
  unfold restoredVerdict
  cases h : s.pods.find? fun p => !isListed pods p with
  | none => simpa using h
  | some p =>
    refine iff_of_false (by simp) fun back => ?_
    have away := List.find?_some h
    simp [back p (List.mem_of_find?_eq_some h)] at away

variable {timing : PruningTiming} {f : Fleet} {spec : PruningSpec} {now : Time}
  {log : Errand.Log} {o : StepOutcome}

theorem candidatePods_of_registered {s : PruningStatus} (h : f.registered = .ok s) :
    f.candidatePods = s.pods :=
  congrArg PruningStatus.pods (HealingStatus.pruningOrNew_of_some (registered_eq_ok_iff.1 h).1)

/-- A verdict that is given rests on a listing, and on the candidates of the fleet. -/
theorem exists_listing_of_judged {α : Type} {timeout : Nat} {a : α}
    {verdict : PruningStatus → List Pod → Except PruneError α}
    {x : Option (Except String (List Pod))} (h : judged timeout f verdict x = .ok a) :
    ∃ s pods, f.candidatePods = s.pods ∧ (listing timeout f x).Lists pods ∧
      verdict s pods = .ok a := by
  unfold judged at h
  cases hr : f.registered with
  | error e => simp [hr] at h
  | ok s =>
    rcases x with _ | _ | pods
    · simp [hr, listed] at h
    · simp [hr, listed] at h
    · refine ⟨s, pods, candidatePods_of_registered hr, ⟨f, timeout, ?_⟩, ?_⟩
      · rw [listing, hr]
        exact List.mem_singleton_self _
      · simpa [hr, listed] using h

/-- The pods that a step lists are those that it gets to see. -/
theorem Sight.pods_of_lists {x : Sight} {pods : List Pod} (h : (x.asked timing f).Lists pods) :
    x.pods = some (.ok pods) := by
  have listed : (listing timing.ioTimeout f x.pods).Lists pods → x.pods = some (.ok pods) := by
    rintro ⟨g, timeout, hm⟩
    unfold listing at hm
    split at hm
    · cases hm
    · generalize x.pods = reply at hm ⊢
      cases List.mem_singleton.1 hm
      rfl
  unfold Sight.asked at h
  cases phase : f.status.pruningPhase with
  | findingCandidate =>
    rw [phase] at h
    obtain ⟨g, timeout, hm⟩ := h
    unfold Sight.searched at hm
    generalize x.usage = usage, x.items = items at hm
    rcases List.mem_cons.1 hm with hm | hm
    · cases hm
    · split at hm
      · cases hm
      · cases List.mem_singleton.1 hm
  | restoringPod =>
    rw [phase] at h
    obtain ⟨g, timeout, hm⟩ := h
    cases hm
  | waitingForPodReplaced | waitingForComplete | confirmPodRestoration =>
    rw [phase] at h
    exact listed h

/-! ### The phases that wait -/

/-- A failed check goes on to no later phase. -/
theorem StepOutcome.patch_afterError {retry : StepOutcome} {e : PruneError}
    {report : String → Event} :
    (retry.afterError e report).patch = retry.patch ∨
      (retry.afterError e report).patch = [.clearCandidates, .setPhase .findingCandidate] := by
  unfold afterError
  split
  · exact .inr rfl
  · split <;> exact .inl rfl

/-- A failed check tells of nothing achieved. -/
theorem StepOutcome.severity_afterError {retry : StepOutcome} {e : PruneError}
    {report : String → Event} (warns : ∀ reason, (report reason).severity = .warning)
    {event : Event} (h : event ∈ (retry.afterError e report).events) :
    event.severity = .warning := by
  unfold afterError at h
  split at h
  · rw [List.mem_singleton.1 h]
    rfl
  · split at h <;> exact List.mem_singleton.1 h ▸ warns e.message

/-- A step goes on from the replacement only where no candidate's own pod is listed. -/
theorem exists_listing_of_replaced (step : (pruneStep timing f spec now).Ends log o)
    (phase : f.status.pruningPhase = .waitingForPodReplaced)
    (moves : o.patch = [.setPhase .waitingForComplete]) :
    ∃ pods, log.Lists pods ∧ ∀ p ∈ f.candidatePods, isListed pods p = false := by
  obtain ⟨x, rfl, rfl⟩ := ends_pruneStep_iff.1 step
  simp only [Sight.asked, Sight.outcome, phase] at moves ⊢
  cases hj : judged timing.ioTimeout f replacedVerdict x.pods with
  | error e =>
    rw [hj] at moves
    rcases StepOutcome.patch_afterError.symm with h | h
    · cases h.symm.trans moves
    · have opened := h.symm.trans moves
      unfold Sight.retry opening at opened
      split at opened <;> cases opened
  | ok u =>
    obtain ⟨s, pods, hs, hl, hv⟩ := exists_listing_of_judged hj
    exact ⟨pods, hl, hs ▸ replacedVerdict_eq_ok_iff.1 hv⟩

/-- A step tells that pruning is complete only where the pruning pod of every candidate has ended,
or is not listed. -/
theorem exists_listing_of_pruned (step : (pruneStep timing f spec now).Ends log o)
    (phase : f.status.pruningPhase = .waitingForComplete) {ps : List String}
    (tells : .pruningComplete ps ∈ o.events) :
    ∃ pods, log.Lists pods ∧ ∀ p ∈ f.candidatePods, isPruned pods p = true := by
  obtain ⟨x, rfl, rfl⟩ := ends_pruneStep_iff.1 step
  simp only [Sight.asked, Sight.outcome, phase] at tells ⊢
  cases hj : judged timing.ioTimeout f (fun s pods => .ok (isComplete s pods)) x.pods with
  | error e =>
    rw [hj] at tells
    cases StepOutcome.severity_afterError (fun _ => rfl) tells
  | ok complete =>
    obtain ⟨s, pods, hs, hl, hv⟩ := exists_listing_of_judged hj
    cases complete with
    | false =>
      rw [hj] at tells
      cases tells
    | true => exact ⟨pods, hl, hs ▸ List.all_eq_true.1 (Except.ok.inj hv)⟩

/-- A step tells that pods are restored only where the own pod of every candidate is listed. -/
theorem exists_listing_of_restored (step : (pruneStep timing f spec now).Ends log o)
    (phase : f.status.pruningPhase = .confirmPodRestoration) {ps : List String}
    (tells : .podRestored ps ∈ o.events) :
    ∃ pods, log.Lists pods ∧ ∀ p ∈ f.candidatePods, isListed pods p = true := by
  obtain ⟨x, rfl, rfl⟩ := ends_pruneStep_iff.1 step
  simp only [Sight.asked, Sight.outcome, phase] at tells ⊢
  cases hj : judged timing.ioTimeout f restoredVerdict x.pods with
  | error e =>
    rw [hj] at tells
    cases StepOutcome.severity_afterError (fun _ => rfl) tells
  | ok u =>
    obtain ⟨s, pods, hs, hl, hv⟩ := exists_listing_of_judged hj
    exact ⟨pods, hl, hs ▸ restoredVerdict_eq_ok_iff.1 hv⟩

end FleetMend
