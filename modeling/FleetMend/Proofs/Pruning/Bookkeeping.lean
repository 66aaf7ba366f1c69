import FleetMend.Proofs.Pruning.Advance

/-!
The books that pruning keeps.

* `PruningStatus.Consistent`: the candidates and the substituted pods are those of the phase.
* `PruningRun`: steps of pruning one after the other, each on the status that the earlier ones left,
  and each followed by its changes or by none.
* `PruningRun.consistent`: such a run keeps the books, and never starts over for lost candidates.
-/

namespace FleetMend

namespace PruningStatus

/-- One pod is taken out, and noted down under its own key. -/
def Holds (s : PruningStatus) (c : Candidate) : Prop :=
  s.candidates.entries = [(candidateKey c.pod c.space, c)]

/-- The candidates and the substituted pods are those of the phase. -/
def Consistent (s : PruningStatus) : Prop :=
  match s.phase with
  | .findingCandidate => s.candidates = ∅ ∧ s.substituted = ∅
  | .waitingForPodReplaced | .waitingForComplete | .restoringPod =>
    ∃ c, s.Holds c ∧ s.substituted.keys = [candidateKey c.pod c.space]
  | .confirmPodRestoration => (∃ c, s.Holds c) ∧ s.substituted = ∅

end PruningStatus

/-- The status of pruning is consistent, if there is one. -/
def FleetStatus.BooksKept (s : FleetStatus) : Prop :=
  ∀ p, s.healing.pruning = some p → p.Consistent

/-- What the steps of a run came to, and the status that they left.  The fleet, the spec, the
waiting times and the clock may be others at every step; only the status is handed on. -/
inductive PruningRun : List StepOutcome → FleetStatus → Prop where
  | start {s : FleetStatus} (new : s.healing.pruning = none) : PruningRun [] s
  | applied {outcomes : List StepOutcome} {f : Fleet} {timing : PruningTiming}
    {spec : PruningSpec} {now : Time} {log : Errand.Log} {o : StepOutcome}
    (run : PruningRun outcomes f.status) (step : (pruneStep timing f spec now).Ends log o) :
    PruningRun (outcomes ++ [o]) (o.patch.apply f.status)
  | dropped {outcomes : List StepOutcome} {f : Fleet} {timing : PruningTiming}
    {spec : PruningSpec} {now : Time} {log : Errand.Log} {o : StepOutcome}
    (run : PruningRun outcomes f.status) (step : (pruneStep timing f spec now).Ends log o) :
    PruningRun (outcomes ++ [o]) f.status

/-! ### Books of one candidate -/

namespace PruningStatus

variable {p : PruningStatus} {c : Candidate}

theorem Holds.keys (h : p.Holds c) : p.candidates.keys = [candidateKey c.pod c.space] := by
  rw [SortedMap.keys, h]
  rfl

theorem Holds.isEmpty (h : p.Holds c) : p.candidates.isEmpty = false := by
  rw [SortedMap.isEmpty, h]
  rfl

/-- Outside the first phase there is a candidate. -/
theorem Consistent.holds (h : p.Consistent) (hp : p.phase ≠ .findingCandidate) :
    ∃ c, p.Holds c := by
  unfold Consistent at h
  cases phase : p.phase with
  | findingCandidate => exact absurd phase hp
  | waitingForPodReplaced | waitingForComplete | restoringPod =>
    rw [phase] at h
    obtain ⟨c, hc, -⟩ := h
    exact ⟨c, hc⟩
  | confirmPodRestoration =>
    rw [phase] at h
    exact h.1

end PruningStatus

/-! ### What a step leaves -/

namespace FleetStatus

variable {s : FleetStatus}

theorem BooksKept.of_pruning {p : PruningStatus} (hp : s.healing.pruning = some p)
    (hc : p.Consistent) : s.BooksKept := by
  intro q hq
  rw [hp] at hq
  rwa [← Option.some.inj hq]

/-- Where the phase is not the first, pruning has a status. -/
theorem exists_pruning (h : s.pruningPhase ≠ .findingCandidate) :
    ∃ p, s.healing.pruning = some p ∧ p.phase = s.pruningPhase := by
  unfold pruningPhase HealingStatus.pruningOrNew at *
  cases hp : s.healing.pruning with
  | none => exact absurd (by rw [hp]; rfl) h
  | some p => exact ⟨p, rfl, rfl⟩

/-- The first changes open the books where there are none. -/
theorem BooksKept.opening (h : s.BooksKept) : ((FleetMend.opening s).apply s).BooksKept := by
  unfold FleetMend.opening
  cases hp : s.healing.pruning with
  | none =>
    rintro p ⟨⟩
    simp only [HealingStatus.pruningOrNew, hp]
    exact ⟨rfl, rfl⟩
  | some p => exact h

/-- While pruning looks for a candidate, the books are those of a fresh start. -/
theorem BooksKept.pruningOrNew_opening (h : s.BooksKept)
    (phase : s.pruningPhase = .findingCandidate) :
    ((FleetMend.opening s).apply s).healing.pruningOrNew = {} := by
  rw [FleetMend.pruningOrNew_opening, HealingStatus.pruningOrNew]
  unfold pruningPhase HealingStatus.pruningOrNew at phase
  cases hp : s.healing.pruning with
  | none => rfl
  | some p =>
    obtain ⟨at_, candidates, substituted⟩ := p
    have empty := h _ hp
    rw [hp] at phase
    obtain rfl : at_ = .findingCandidate := phase
    obtain ⟨rfl, rfl⟩ := empty
    rfl

/-- While pruning does anything else, there is a candidate to go by. -/
theorem BooksKept.exists_holds (h : s.BooksKept) (phase : s.pruningPhase ≠ .findingCandidate) :
    ∃ p c, s.healing.pruning = some p ∧ p.phase = s.pruningPhase ∧ p.Consistent ∧ p.Holds c := by
  obtain ⟨p, hp, hphase⟩ := exists_pruning phase
  obtain ⟨c, hc⟩ := (h p hp).holds (hphase ▸ phase)
  exact ⟨p, c, hp, hphase, h p hp, hc⟩

end FleetStatus

variable {f : Fleet} {patch : Patch} {events : List Event}

/-- Candidates that are noted down are not lost. -/
theorem FleetStatus.BooksKept.registered (h : f.status.BooksKept)
    (phase : f.status.pruningPhase ≠ .findingCandidate) : ∃ p, f.registered = .ok p := by
  obtain ⟨p, c, hp, -, -, hc⟩ := h.exists_holds phase
  exact ⟨p, registered_eq_ok_iff.2 ⟨hp, hc.isEmpty⟩⟩

/-- A phase that fits the candidates and the substituted pods may be entered. -/
theorem FleetStatus.BooksKept.setPhase {s : FleetStatus} {p : PruningStatus}
    (phase : PruningPhase) (hp : s.healing.pruning = some p)
    (hc : PruningStatus.Consistent { p with phase }) :
    ((StatusOp.setPhase phase).apply s).1.BooksKept := by
  refine .of_pruning (StatusOp.pruning_setPhase s phase) ?_
  rw [HealingStatus.pruningOrNew_of_some hp]
  exact hc

/-- Whatever a step comes to, its changes keep the books. -/
theorem Advance.booksKept (a : Advance f patch events) (h : f.status.BooksKept) :
    (patch.apply f.status).BooksKept := by
  cases a with
  | stays => exact h.opening
  | takesOut pod now phase =>
    have fresh := h.pruningOrNew_opening phase
    have added := StatusOp.pruning_addCandidate ((opening f.status).apply f.status)
      (candidateKey pod.name pod.space) ⟨pod.name, pod.space⟩ now
    rw [fresh] at added
    rw [Patch.apply_append]
    exact .setPhase .waitingForPodReplaced added ⟨⟨pod.name, pod.space⟩, rfl, rfl⟩
  | replaced phase =>
    obtain ⟨p, c, hp, hphase, hc, -⟩ := h.exists_holds (by simp [phase])
    rw [PruningStatus.Consistent, hphase, phase] at hc
    exact .setPhase .waitingForComplete hp hc
  | pruned phase =>
    obtain ⟨p, c, hp, hphase, hc, -⟩ := h.exists_holds (by simp [phase])
    rw [PruningStatus.Consistent, hphase, phase] at hc
    exact .setPhase .restoringPod hp hc
  | signalled phase registered =>
    obtain ⟨p, c, hp, hphase, hc, hone⟩ := h.exists_holds (by simp [phase])
    obtain ⟨hs, -⟩ := registered_eq_ok_iff.1 registered
    obtain rfl := Option.some.inj (hp.symm.trans hs)
    rw [PruningStatus.Consistent, hphase, phase] at hc
    -- The one candidate and the one substituted pod go by the same key, so clearing it clears all.
    obtain ⟨d, hd, hkeys⟩ := hc
    rw [hd.keys]
    exact .setPhase .confirmPodRestoration
      ((StatusOp.pruning_clearSubstitution ..).trans (congrArg _ hp))
      ⟨⟨d, hd⟩, SortedMap.erase_of_keys hkeys⟩
  | restored phase =>
    obtain ⟨p, c, hp, hphase, hc, -⟩ := h.exists_holds (by simp [phase])
    rw [PruningStatus.Consistent, hphase, phase] at hc
    exact .setPhase .findingCandidate
      ((StatusOp.pruning_clearCandidates _).trans (congrArg _ hp)) ⟨rfl, hc.2⟩
  | reset phase lost =>
    obtain ⟨p, hp⟩ := h.registered phase
    rw [lost] at hp
    cases hp

/-- With the books kept, no step starts over for lost candidates. -/
theorem Advance.noReset (a : Advance f patch events) (h : f.status.BooksKept) :
    ∀ e ∈ events, e.isReset = false := by
  cases a with
  | stays told => exact fun e he => (told e he).2
  | reset phase lost =>
    obtain ⟨p, hp⟩ := h.registered phase
    rw [lost] at hp
    cases hp
  | _ => simp [Event.isReset]

/-! ### The run -/

theorem noReset_concat {outcomes : List StepOutcome} {o : StepOutcome}
    (h : ∀ o ∈ outcomes, ∀ phase reason, Event.pruningReset phase reason ∉ o.events)
    (ho : ∀ e ∈ o.events, e.isReset = false) :
    ∀ o' ∈ outcomes ++ [o], ∀ phase reason, Event.pruningReset phase reason ∉ o'.events := by
  intro o' hm phase reason
  rcases List.mem_append.1 hm with hm | hm
  · exact h o' hm phase reason
  · rw [List.mem_singleton.1 hm]
    exact fun he => Bool.noConfusion (ho _ he)

/-- **Bookkeeping.**  From a status without pruning, whatever the steps get to see and whether or
not their changes are kept, the books are kept: the phase, the candidates and the substituted pods
fit together.  No step on the way starts over for lost candidates. -/
theorem PruningRun.consistent {outcomes : List StepOutcome} {s : FleetStatus}
    (run : PruningRun outcomes s) :
    (∀ p, s.healing.pruning = some p → p.Consistent) ∧
      ∀ o ∈ outcomes, ∀ phase reason, Event.pruningReset phase reason ∉ o.events := by
  induction run with
  | start new => exact ⟨fun p hp => by simp [new] at hp, fun o ho => absurd ho List.not_mem_nil⟩
  | applied run step ih =>
    have advance := Advance.of_ends step
    exact ⟨advance.booksKept ih.1, noReset_concat ih.2 (advance.noReset ih.1)⟩
  | dropped run step ih =>
    exact ⟨ih.1, noReset_concat ih.2 ((Advance.of_ends step).noReset ih.1)⟩

/-- A pod is taken out, and is no longer listed at the next step. -/
theorem PruningRun.consistent_replaced :
    let pod : Pod := ⟨"osmosis-0", "default", 0, "data-osmosis-0", none, []⟩
    let f : Fleet := { key := ⟨"default", "osmosis"⟩, spec := { replicas := 1 } }
    let spec : PruningSpec := { trigger := 80, minAvailable := some 0 }
    let search : Sight :=
      { usage := some (.ok [⟨"data-osmosis-0", 85, default⟩])
        items := some [⟨pod, some 100, some true, none, ⟨0, false⟩⟩]
        pods := none }
    let first := search.outcome {} f spec ⟨0, false⟩
    let g : Fleet := { f with status := first.patch.apply f.status }
    let second := Sight.outcome ⟨none, none, some (.ok [])⟩ {} g spec ⟨10, false⟩
    let s := second.patch.apply g.status
    PruningRun [first, second] s ∧ s.pruningPhase = .waitingForComplete ∧
      (∀ p, s.healing.pruning = some p → p.Consistent) ∧
      ∀ o ∈ [first, second], ∀ phase reason, Event.pruningReset phase reason ∉ o.events := by
  intro pod f spec search first g second s
  have found : PruningRun [first] g.status :=
    .applied (f := f) (.start rfl) (ends_pruneStep_iff.2 ⟨search, rfl, rfl⟩)
  have run : PruningRun [first, second] s :=
    .applied found (ends_pruneStep_iff.2 ⟨⟨none, none, some (.ok [])⟩, rfl, rfl⟩)
  exact ⟨run, rfl, run.consistent⟩

end FleetMend
