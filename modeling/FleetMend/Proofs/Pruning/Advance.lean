import FleetMend.Proofs.Pruning.Sight

/-!
How far a step of pruning gets.

* `Advance`: the changes and the events that a step can come to, each with what it takes.
* `Advance.of_ends`: a step, whatever it gets to see, comes to one of these.
-/

namespace FleetMend

/-- The event tells that pruning starts over because the candidates are lost. -/
def Event.isReset : Event → Bool
  | pruningReset .. => true
  | _ => false

/-- The changes and the events that a step of a fleet can come to. -/
inductive Advance (f : Fleet) : Patch → List Event → Prop where
  /-- Nothing gets on, and a failure may be told. -/
  | stays {events : List Event}
    (told : ∀ e ∈ events, e.severity = .warning ∧ e.isReset = false) :
    Advance f (opening f.status) events
  | takesOut (pod : Pod) (now : Time) (phase : f.status.pruningPhase = .findingCandidate) :
    Advance f (opening f.status ++ [takeOut pod now, .setPhase .waitingForPodReplaced])
      [.candidateFound pod.name]
  | replaced (phase : f.status.pruningPhase = .waitingForPodReplaced) :
    Advance f [.setPhase .waitingForComplete] []
  | pruned (phase : f.status.pruningPhase = .waitingForComplete) :
    Advance f [.setPhase .restoringPod] [.pruningComplete f.candidatePods]
  | signalled {s : PruningStatus} (phase : f.status.pruningPhase = .restoringPod)
      (registered : f.registered = .ok s) :
    Advance f (s.candidates.keys.map .clearSubstitution ++ [.setPhase .confirmPodRestoration]) []
  | restored (phase : f.status.pruningPhase = .confirmPodRestoration) :
    Advance f [.clearCandidates, .setPhase .findingCandidate] [.podRestored f.candidatePods]
  /-- The candidates are lost. -/
  | reset (phase : f.status.pruningPhase ≠ .findingCandidate)
      (lost : f.registered = .error .noCandidates) :
    Advance f [.clearCandidates, .setPhase .findingCandidate]
      [.pruningReset f.status.pruningPhase PruneError.noCandidates.message]

variable {timing : PruningTiming} {f : Fleet} {spec : PruningSpec} {now : Time}

/-! ### Registered candidates -/

theorem registered_eq_ok_iff {s : PruningStatus} :
    f.registered = .ok s ↔ f.status.healing.pruning = some s ∧ s.candidates.isEmpty = false := by
  unfold Fleet.registered
  cases f.status.healing.pruning with
  | none => simp
  | some p => by_cases h : p.candidates.isEmpty <;> simp [h] <;> rintro rfl <;> simp [h]

theorem registered_eq_error {e : PruneError} (h : f.registered = .error e) : e = .noCandidates := by
  unfold Fleet.registered at h
  cases hp : f.status.healing.pruning with
  | none => simp_all
  | some p => by_cases hc : p.candidates.isEmpty <;> simp_all

theorem listed_ne_noCandidates {timeout : Nat} {x : Option (Except String (List Pod))} :
    listed timeout x ≠ .error .noCandidates := by
  rcases x with _ | _ | _ <;> simp [listed]

/-- A verdict is only without candidates where there are none registered. -/
theorem registered_of_judged {α : Type} {timeout : Nat} {x : Option (Except String (List Pod))}
    {verdict : PruningStatus → List Pod → Except PruneError α}
    (hv : ∀ s pods, verdict s pods ≠ .error .noCandidates)
    (h : judged timeout f verdict x = .error .noCandidates) :
    f.registered = .error .noCandidates := by
  unfold judged at h
  cases hr : f.registered with
  | error e => rw [registered_eq_error hr]
  | ok s =>
    rw [hr] at h
    cases hl : listed timeout x with
    | error e =>
      simp only [hl, Except.error.injEq] at h
      exact absurd (h ▸ hl) listed_ne_noCandidates
    | ok pods =>
      simp only [hl] at h
      exact absurd h (hv s pods)

theorem replacedVerdict_ne (s : PruningStatus) (pods : List Pod) :
    replacedVerdict s pods ≠ .error .noCandidates := by
  unfold replacedVerdict
  split <;> simp

theorem restoredVerdict_ne (s : PruningStatus) (pods : List Pod) :
    restoredVerdict s pods ≠ .error .noCandidates := by
  unfold restoredVerdict
  split <;> simp

/-! ### What a step comes to -/

namespace Advance

/-- A failed check leaves everything as it is, or finds the candidates lost. -/
theorem afterError {e : PruneError} {report : String → Event}
    (phase : f.status.pruningPhase ≠ .findingCandidate)
    (lost : e = .noCandidates → f.registered = .error .noCandidates)
    (told : ∀ reason, (report reason).severity = .warning ∧ (report reason).isReset = false) :
    Advance f ((Sight.retry timing f).afterError e report).patch
      ((Sight.retry timing f).afterError e report).events := by
  unfold StepOutcome.afterError
  by_cases he : e = .noCandidates
  · rw [if_pos he, he]
    exact .reset phase (lost he)
  · rw [if_neg he]
    have stays : Advance f (opening f.status) [report e.message] :=
      .stays fun _ hm => List.mem_singleton.1 hm ▸ told e.message
    by_cases hp : e.isPending
    · rw [if_pos hp]
      exact stays
    · rw [if_neg hp]
      exact stays

theorem search (phase : f.status.pruningPhase = .findingCandidate) (x : Sight) :
    Advance f (x.search timing spec now (Sight.retry timing f)).patch
      (x.search timing spec now (Sight.retry timing f)).events := by
  unfold Sight.search
  cases used timing.ioTimeout x.usage with
  | error e => exact .stays fun _ hm => List.mem_singleton.1 hm ▸ ⟨rfl, rfl⟩
  | ok usage =>
    dsimp only
    rcases found timing.candidateTimeout spec usage x.items with e | _ | pod
    · exact .stays fun _ hm => absurd hm List.not_mem_nil
    · exact .stays fun _ hm => absurd hm List.not_mem_nil
    · exact .takesOut pod now phase

/-- **Inversion.**  A step comes to one of the advances, whatever it gets to see. -/
theorem of_ends {log : Errand.Log} {o : StepOutcome}
    (h : (pruneStep timing f spec now).Ends log o) : Advance f o.patch o.events := by
  obtain ⟨x, -, rfl⟩ := ends_pruneStep_iff.1 h
  unfold Sight.outcome
  cases phase : f.status.pruningPhase with
  | findingCandidate => exact search phase x
  | waitingForPodReplaced =>
    cases hj : judged timing.ioTimeout f replacedVerdict x.pods with
    | error e =>
      exact afterError (by simp [phase])
        (fun he => registered_of_judged replacedVerdict_ne (he ▸ hj)) fun _ => ⟨rfl, rfl⟩
    | ok u => exact .replaced phase
  | waitingForComplete =>
    cases hj : judged timing.ioTimeout f (fun s pods => .ok (isComplete s pods)) x.pods with
    | error e =>
      exact afterError (by simp [phase])
        (fun he => registered_of_judged (fun _ _ => by simp) (he ▸ hj)) fun _ => ⟨rfl, rfl⟩
    | ok complete =>
      cases complete with
      | true => exact .pruned phase
      | false => exact .stays fun _ hm => absurd hm List.not_mem_nil
  | restoringPod =>
    simp only [restoration]
    cases hr : f.registered with
    | error e =>
      exact afterError (by simp [phase]) (fun he => he ▸ hr) fun _ => ⟨rfl, rfl⟩
    | ok s => exact .signalled phase hr
  | confirmPodRestoration =>
    cases hj : judged timing.ioTimeout f restoredVerdict x.pods with
    | error e =>
      exact afterError (by simp [phase])
        (fun he => registered_of_judged restoredVerdict_ne (he ▸ hj)) fun _ => ⟨rfl, rfl⟩
    | ok u => exact .restored phase

end Advance

end FleetMend
