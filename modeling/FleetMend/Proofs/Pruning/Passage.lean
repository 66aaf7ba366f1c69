import FleetMend.Proofs.Pruning.Evidence

/-!
From which phase a step of pruning goes to which.

* `Passage`: the ways from one phase to another, each with what the calls of a step have to bring.
* `FleetStatus.opened`: a status in which pruning has begun.
* `passage_of_ends`: a step goes from one phase to another exactly where there is a way, and leaves
  everything as it is where there is none, once pruning has begun.
* `begun_without_passage`: a step on a status without pruning begins it, even where it finds none.
-/

namespace FleetMend

/-- The candidates of a fleet, in the order of their keys. -/
def Fleet.candidates (f : Fleet) : List Candidate := f.status.healing.pruningOrNew.candidates.values

/-- The disk usage was among the replies. -/
def Errand.Log.Uses (log : Errand.Log) (usage : List DiskUsage) : Prop :=
  ∃ (f : Fleet) (timeout : Nat),
    (⟨Request.callWithin (.collectUsage f) timeout,
      (some (.ok usage) : Option (Except HealthError (List DiskUsage)))⟩ :
        (q : Request) × q.Answer) ∈ log

/-- The state of the pods was among the replies. -/
def Errand.Log.Collects (log : Errand.Log) (items : List StatusItem) : Prop :=
  ∃ (f : Fleet) (timeout : Nat),
    (⟨Request.callWithin (.collectStatus f) timeout, (some items : Option (List StatusItem))⟩ :
      (q : Request) × q.Answer) ∈ log

/-- The ways from one phase to another, for a fleet whose step has had these replies. -/
inductive Passage (f : Fleet) (spec : PruningSpec) (log : Errand.Log) :
    PruningPhase → PruningPhase → Prop where
  /-- Disk usage and synced pods came in time, and one of the pods is to be taken out. -/
  | takesOut {usage : List DiskUsage} {items : List StatusItem} {pod : Pod}
    (uses : log.Uses usage) (collects : log.Collects items)
    (chosen : chooseCandidate spec (syncedPods items) usage = some pod) :
    Passage f spec log .findingCandidate .waitingForPodReplaced
  /-- No pod of the listing has the name of a candidate. -/
  | replaced {pods : List Pod} (registered : f.candidates ≠ []) (lists : log.Lists pods)
    (gone : ∀ c ∈ f.candidates, ∀ p ∈ pods, p.name ≠ c.pod) :
    Passage f spec log .waitingForPodReplaced .waitingForComplete
  /-- The first pod with the name of a candidate's pruning pod, if there is one, has containers, and
  all of them have ended. -/
  | pruned {pods : List Pod} (registered : f.candidates ≠ []) (lists : log.Lists pods)
    (ended : ∀ c ∈ f.candidates, ∀ p, pods.find? (fun p => p.name = prunerName c.pod) = some p →
      p.containers ≠ [] ∧ ∀ x ∈ p.containers, ∃ code, x.state = .terminated code) :
    Passage f spec log .waitingForComplete .restoringPod
  | signalled (registered : f.candidates ≠ []) :
    Passage f spec log .restoringPod .confirmPodRestoration
  /-- The own pod of every candidate is listed. -/
  | restored {pods : List Pod} (registered : f.candidates ≠ []) (lists : log.Lists pods)
    (back : ∀ c ∈ f.candidates, ∃ p ∈ pods, p.name = c.pod) :
    Passage f spec log .confirmPodRestoration .findingCandidate
  /-- The candidates are lost. -/
  | lost {phase : PruningPhase} (later : phase ≠ .findingCandidate) (none : f.candidates = []) :
    Passage f spec log phase .findingCandidate

/-- The same status, with the first phase and no candidates where pruning has not begun. -/
def FleetStatus.opened (s : FleetStatus) : FleetStatus :=
  match s.healing.pruning with
  | some _ => s
  | none => { s with healing := { s.healing with pruning := some {} } }

namespace Passage

variable {f : Fleet} {spec : PruningSpec} {log : Errand.Log} {src dst dst' : PruningPhase}

/-- Every way leads away. -/
theorem ne (h : Passage f spec log src dst) : dst ≠ src := by
  cases h with
  | lost later => exact later.symm
  | _ => simp

/-- There is one way at most. -/
theorem unique (h : Passage f spec log src dst) (h' : Passage f spec log src dst') :
    dst = dst' := by
  cases h with
  | takesOut =>
    cases h' with
    | takesOut => rfl
    | lost later => exact absurd rfl later
  | replaced registered =>
    cases h' with
    | replaced => rfl
    | lost _ none => exact absurd none registered
  | pruned registered =>
    cases h' with
    | pruned => rfl
    | lost _ none => exact absurd none registered
  | signalled registered =>
    cases h' with
    | signalled => rfl
    | lost _ none => exact absurd none registered
  | restored => cases h' <;> rfl
  | lost later none =>
    cases h' with
    | takesOut => exact absurd rfl later
    | replaced registered | pruned registered | signalled registered =>
      exact absurd none registered
    | restored | lost => rfl

/-- A way out of a phase that waits takes a listing, unless the candidates are lost. -/
theorem exists_listing (h : Passage f spec log src dst) (later : src ≠ .findingCandidate)
    (waits : src ≠ .restoringPod) : f.candidates = [] ∨ ∃ pods, log.Lists pods := by
  cases h with
  | takesOut => exact absurd rfl later
  | signalled => exact absurd rfl waits
  | replaced _ lists | pruned _ lists | restored _ lists => exact .inr ⟨_, lists⟩
  | lost _ none => exact .inl none

end Passage

section

variable {timing : PruningTiming} {f : Fleet} {spec : PruningSpec} {now : Time} {x : Sight}

/-! ### Registered candidates -/

theorem candidates_eq_nil_iff : f.candidates = [] ↔ f.registered = .error .noCandidates := by
  unfold Fleet.candidates Fleet.registered HealingStatus.pruningOrNew
  cases f.status.healing.pruning with
  | none => exact iff_of_true rfl rfl
  | some s =>
    show s.candidates.values = [] ↔ (if s.candidates.isEmpty then _ else _) = _
    rw [SortedMap.values, List.map_eq_nil_iff, SortedMap.isEmpty]
    cases s.candidates.entries <;> simp

theorem candidates_of_registered {s : PruningStatus} (h : f.registered = .ok s) :
    f.candidates ≠ [] ∧ f.candidates = s.candidates.values := by
  refine ⟨fun none => ?_, ?_⟩
  · rw [candidates_eq_nil_iff, h] at none
    cases none
  · rw [Fleet.candidates, HealingStatus.pruningOrNew_of_some (registered_eq_ok_iff.1 h).1]

/-! ### What the verdicts say -/

theorem replacedVerdict_eq_ok_iff_forall {s : PruningStatus} {pods : List Pod} :
    replacedVerdict s pods = .ok () ↔
      ∀ c ∈ s.candidates.values, ∀ p ∈ pods, p.name ≠ c.pod := by
  simp [replacedVerdict_eq_ok_iff, PruningStatus.pods, isListed]

theorem restoredVerdict_eq_ok_iff_forall {s : PruningStatus} {pods : List Pod} :
    restoredVerdict s pods = .ok () ↔
      ∀ c ∈ s.candidates.values, ∃ p ∈ pods, p.name = c.pod := by
  simp [restoredVerdict_eq_ok_iff, PruningStatus.pods, isListed]

theorem Pod.allTerminated_iff {p : Pod} :
    p.allTerminated = true ↔
      p.containers ≠ [] ∧ ∀ x ∈ p.containers, ∃ code, x.state = .terminated code := by
  have ended (x : Container) :
      x.state.isTerminated = true ↔ ∃ code, x.state = .terminated code := by
    cases x.state <;> simp [ContainerState.isTerminated]
  simp [allTerminated, ended]

theorem isComplete_iff {s : PruningStatus} {pods : List Pod} :
    isComplete s pods = true ↔
      ∀ c ∈ s.candidates.values, ∀ p,
        pods.find? (fun p => p.name = prunerName c.pod) = some p →
          p.containers ≠ [] ∧ ∀ x ∈ p.containers, ∃ code, x.state = .terminated code := by
  have pruned (name : String) : isPruned pods name = true ↔
      ∀ p, pods.find? (fun p => p.name = prunerName name) = some p → p.allTerminated = true := by
    unfold isPruned
    split <;> simp [*]
  simp [isComplete, PruningStatus.pods, pruned, Pod.allTerminated_iff]

/-- A verdict on the candidates that are registered: they are lost, or no listing came, or it is the
verdict on the pods of the listing. -/
inductive Judgement {α : Type} (f : Fleet) (reply : Option (Except String (List Pod)))
    (verdict : PruningStatus → List Pod → Except PruneError α) : Except PruneError α → Prop where
  | lost (none : f.candidates = []) : Judgement f reply verdict (.error .noCandidates)
  | unlisted {e : PruneError} (registered : f.candidates ≠ []) (other : e ≠ .noCandidates)
    (missing : ∀ pods, reply ≠ some (.ok pods)) : Judgement f reply verdict (.error e)
  | given {s : PruningStatus} {pods : List Pod} (registered : f.registered = .ok s)
    (listed : reply = some (.ok pods)) : Judgement f reply verdict (verdict s pods)

theorem judgement_judged {α : Type} (timeout : Nat)
    (verdict : PruningStatus → List Pod → Except PruneError α)
    (reply : Option (Except String (List Pod))) :
    Judgement f reply verdict (judged timeout f verdict reply) := by
  unfold judged
  cases hr : f.registered with
  | error e =>
    obtain rfl := registered_eq_error hr
    exact .lost (candidates_eq_nil_iff.2 hr)
  | ok s =>
    have some := (candidates_of_registered hr).1
    rcases reply with _ | _ | pods
    · exact .unlisted some (by simp) (by simp)
    · exact .unlisted some (by simp) (by simp)
    · exact .given hr rfl

/-! ### Replies of a step -/

theorem Sight.lists_of_pods {s : PruningStatus} {pods : List Pod}
    (registered : f.registered = .ok s)
    (waits : x.asked timing f = listing timing.ioTimeout f x.pods)
    (listed : x.pods = some (.ok pods)) : (x.asked timing f).Lists pods := by
  refine ⟨f, timing.ioTimeout, ?_⟩
  rw [waits, listing, registered, listed]
  exact List.mem_singleton_self _

/-- The listing among the replies is the one that the step gets to see. -/
theorem Sight.eq_of_lists {pods pods' : List Pod} (listed : x.pods = some (.ok pods))
    (lists : (x.asked timing f).Lists pods') : pods = pods' := by
  simpa using listed.symm.trans (Sight.pods_of_lists lists)

theorem used_eq_ok_iff {timeout : Nat} {reply : Option (Except HealthError (List DiskUsage))}
    {usage : List DiskUsage} : used timeout reply = .ok usage ↔ reply = some (.ok usage) := by
  rcases reply with _ | _ | _ <;> simp [used]

theorem found_eq_ok_some_iff {timeout : Nat} {usage : List DiskUsage}
    {reply : Option (List StatusItem)} {pod : Pod} :
    found timeout spec usage reply = .ok (some pod) ↔
      ∃ items, reply = some items ∧ chooseCandidate spec (syncedPods items) usage = some pod := by
  cases reply <;> simp [found]

/-- The disk usage of a search is what it gets to see. -/
theorem Sight.usage_of_uses {usage : List DiskUsage} (h : (x.searched timing f).Uses usage) :
    x.usage = some (.ok usage) := by
  obtain ⟨g, timeout, hm⟩ := h
  unfold Sight.searched at hm
  generalize x.usage = reply, x.items = items at hm ⊢
  rcases List.mem_cons.1 hm with hm | hm
  · cases hm
    rfl
  · split at hm
    · cases hm
    · cases List.mem_singleton.1 hm

/-- The state of the pods of a search is what it gets to see. -/
theorem Sight.items_of_collects {items : List StatusItem}
    (h : (x.searched timing f).Collects items) : x.items = some items := by
  obtain ⟨g, timeout, hm⟩ := h
  unfold Sight.searched at hm
  generalize x.usage = reply, x.items = reply' at hm ⊢
  rcases List.mem_cons.1 hm with hm | hm
  · cases hm
  · split at hm
    · cases hm
    · cases List.mem_singleton.1 hm
      rfl

theorem Sight.searched_of_usage {usage : List DiskUsage} (h : x.usage = some (.ok usage)) :
    (x.searched timing f).Uses usage ∧
      ∀ items, x.items = some items → (x.searched timing f).Collects items := by
  unfold Sight.searched
  rw [h]
  refine ⟨⟨f, timing.ioTimeout, List.mem_cons_self⟩, fun items hi => ?_⟩
  rw [hi]
  exact ⟨f, timing.candidateTimeout, List.mem_cons_of_mem _ List.mem_cons_self⟩

/-! ### The step -/

theorem apply_opening (s : FleetStatus) : (opening s).apply s = s.opened := by
  unfold opening FleetStatus.opened
  cases hp : s.healing.pruning with
  | none =>
    show s.withPruning (fun p => { p with phase := .findingCandidate }) = _
    rw [FleetStatus.withPruning, FleetStatus.withHealing, HealingStatus.pruningOrNew, hp]
    rfl
  | some p => rfl

theorem pruningPhase_opened (s : FleetStatus) : s.opened.pruningPhase = s.pruningPhase := by
  unfold FleetStatus.opened FleetStatus.pruningPhase HealingStatus.pruningOrNew
  cases hp : s.healing.pruning with
  | none => rfl
  | some p => rw [hp]

/-- A failed check leaves what the step began with, as long as there are candidates. -/
theorem Sight.patch_afterError {e : PruneError} {report : String → Event}
    (h : e ≠ .noCandidates) :
    ((Sight.retry timing f).afterError e report).patch = opening f.status := by
  rw [StepOutcome.afterError, if_neg h]
  split <;> rfl

/-- The changes go along the way that there is, or there is none and they leave everything. -/
inductive Conforms (f : Fleet) (spec : PruningSpec) (log : Errand.Log) (patch : Patch) : Prop where
  | goes {dst : PruningPhase} (passage : Passage f spec log f.status.pruningPhase dst)
    (arrives : (patch.apply f.status).pruningPhase = dst)
  | stays (blocked : ∀ dst, ¬Passage f spec log f.status.pruningPhase dst)
    (unchanged : patch = opening f.status)

namespace Conforms

/-- A phase that waits for a listing conforms if it does where there is one. -/
theorem of_judged {α : Type} {verdict : PruningStatus → List Pod → Except PruneError α}
    {after : Except PruneError α → StepOutcome} {report : String → Event}
    (asks : x.asked timing f = listing timing.ioTimeout f x.pods)
    (later : f.status.pruningPhase ≠ .findingCandidate)
    (waits : f.status.pruningPhase ≠ .restoringPod)
    (failed : ∀ e, after (.error e) = (Sight.retry timing f).afterError e report)
    (given : ∀ s pods, f.candidates ≠ [] → f.candidates = s.candidates.values →
      (x.asked timing f).Lists pods → x.pods = some (.ok pods) →
        Conforms f spec (x.asked timing f) (after (verdict s pods)).patch) :
    Conforms f spec (x.asked timing f)
      (after (judged timing.ioTimeout f verdict x.pods)).patch := by
  have j := judgement_judged (f := f) timing.ioTimeout verdict x.pods
  generalize judged timing.ioTimeout f verdict x.pods = r at j
  cases j with
  | lost none =>
    rw [failed]
    exact .goes (.lost later none) rfl
  | unlisted registered other missing =>
    rw [failed]
    refine .stays (fun dst passage => ?_) (Sight.patch_afterError other)
    rcases passage.exists_listing later waits with none | ⟨pods, lists⟩
    · exact registered none
    · exact missing pods (Sight.pods_of_lists lists)
  | given registered listed =>
    obtain ⟨some, same⟩ := candidates_of_registered registered
    exact given _ _ some same (Sight.lists_of_pods registered asks listed) listed

/-- And it conforms where its verdict lets it go on exactly where there is a way. -/
theorem of_verdict {verdict : PruningStatus → List Pod → Except PruneError Unit}
    {after : Except PruneError Unit → StepOutcome} {report : String → Event} {dst : PruningPhase}
    (asks : x.asked timing f = listing timing.ioTimeout f x.pods)
    (later : f.status.pruningPhase ≠ .findingCandidate)
    (waits : f.status.pruningPhase ≠ .restoringPod)
    (failed : ∀ e, after (.error e) = (Sight.retry timing f).afterError e report)
    (other : ∀ s pods, verdict s pods ≠ .error .noCandidates)
    (arrives : ((after (.ok ())).patch.apply f.status).pruningPhase = dst)
    (goes : ∀ s pods, f.candidates ≠ [] → f.candidates = s.candidates.values →
      (x.asked timing f).Lists pods → verdict s pods = .ok () →
        Passage f spec (x.asked timing f) f.status.pruningPhase dst)
    (only : ∀ s pods dst, f.candidates ≠ [] → f.candidates = s.candidates.values →
      x.pods = some (.ok pods) → Passage f spec (x.asked timing f) f.status.pruningPhase dst →
        verdict s pods = .ok ()) :
    Conforms f spec (x.asked timing f)
      (after (judged timing.ioTimeout f verdict x.pods)).patch := by
  refine of_judged asks later waits failed fun s pods some same lists listed => ?_
  cases told : verdict s pods with
  | ok => exact .goes (goes s pods some same lists told) arrives
  | error e =>
    rw [failed]
    refine .stays (fun dst passage => ?_) (Sight.patch_afterError fun he => ?_)
    · rw [only s pods dst some same listed passage] at told
      cases told
    · exact other s pods (he ▸ told)

theorem of_search (phase : f.status.pruningPhase = .findingCandidate) :
    Conforms f spec (x.asked timing f) (x.outcome timing f spec now).patch := by
  simp only [Sight.asked, Sight.outcome, phase]
  -- Without disk usage and synced pods, and a pod among these, there is no way.
  have blocked (h : ∀ usage items pod, x.usage = some (.ok usage) → x.items = some items →
      chooseCandidate spec (syncedPods items) usage ≠ some pod) (dst : PruningPhase) :
      ¬Passage f spec (x.searched timing f) f.status.pruningPhase dst := by
    rw [phase]
    rintro (⟨uses, collects, chosen⟩ | _)
    · exact h _ _ _ (Sight.usage_of_uses uses) (Sight.items_of_collects collects) chosen
    · contradiction
  unfold Sight.search
  cases hu : used timing.ioTimeout x.usage with
  | error e =>
    refine .stays (blocked fun usage _ _ h _ _ => ?_) rfl
    rw [used_eq_ok_iff.2 h] at hu
    cases hu
  | ok usage =>
    have shown := used_eq_ok_iff.1 hu
    dsimp only
    rcases hf : found timing.candidateTimeout spec usage x.items with e | _ | pod
    · refine .stays (blocked fun usage' items pod h hi chosen => ?_) rfl
      cases h.symm.trans shown
      rw [found_eq_ok_some_iff.2 ⟨items, hi, chosen⟩] at hf
      cases hf
    · refine .stays (blocked fun usage' items pod h hi chosen => ?_) rfl
      cases h.symm.trans shown
      rw [found_eq_ok_some_iff.2 ⟨items, hi, chosen⟩] at hf
      cases hf
    · obtain ⟨items, hi, chosen⟩ := found_eq_ok_some_iff.1 hf
      obtain ⟨uses, collects⟩ : (x.searched timing f).Uses usage ∧ _ :=
        Sight.searched_of_usage shown
      have passage := Passage.takesOut (f := f) uses (collects items hi) chosen
      refine .goes (phase ▸ passage) ?_
      show (Patch.apply (opening f.status ++ _) f.status).pruningPhase = _
      rw [Patch.apply_append]
      rfl

theorem of_replaced (phase : f.status.pruningPhase = .waitingForPodReplaced) :
    Conforms f spec (x.asked timing f) (x.outcome timing f spec now).patch := by
  have asks : x.asked timing f = listing timing.ioTimeout f x.pods := by
    simp only [Sight.asked, phase]
  simp only [Sight.outcome, phase]
  refine of_verdict asks (by simp [phase]) (by simp [phase]) (fun _ => rfl) replacedVerdict_ne rfl
    (fun s pods some same lists told => ?_) fun s pods dst some same listed passage => ?_
  · exact phase ▸ .replaced some lists (same ▸ replacedVerdict_eq_ok_iff_forall.1 told)
  · rw [phase] at passage
    cases passage with
    | replaced _ lists gone =>
      obtain rfl := Sight.eq_of_lists listed lists
      exact replacedVerdict_eq_ok_iff_forall.2 (same ▸ gone)
    | lost _ none => exact absurd none some

theorem of_pruned (phase : f.status.pruningPhase = .waitingForComplete) :
    Conforms f spec (x.asked timing f) (x.outcome timing f spec now).patch := by
  have asks : x.asked timing f = listing timing.ioTimeout f x.pods := by
    simp only [Sight.asked, phase]
  simp only [Sight.outcome, phase]
  refine of_judged asks (by simp [phase]) (by simp [phase]) (fun _ => rfl)
    fun s pods some same lists listed => ?_
  cases hv : isComplete s pods with
  | false =>
    refine .stays (fun dst passage => ?_) rfl
    rw [phase] at passage
    cases passage with
    | pruned _ lists' ended =>
      obtain rfl := Sight.eq_of_lists listed lists'
      rw [isComplete_iff.2 (same ▸ ended)] at hv
      cases hv
    | lost _ none => exact some none
  | true => exact .goes (phase ▸ .pruned some lists (same ▸ isComplete_iff.1 hv)) rfl

theorem of_restored (phase : f.status.pruningPhase = .confirmPodRestoration) :
    Conforms f spec (x.asked timing f) (x.outcome timing f spec now).patch := by
  have asks : x.asked timing f = listing timing.ioTimeout f x.pods := by
    simp only [Sight.asked, phase]
  simp only [Sight.outcome, phase]
  refine of_verdict asks (by simp [phase]) (by simp [phase]) (fun _ => rfl) restoredVerdict_ne rfl
    (fun s pods some same lists told => ?_) fun s pods dst some same listed passage => ?_
  · exact phase ▸ .restored some lists (same ▸ restoredVerdict_eq_ok_iff_forall.1 told)
  · rw [phase] at passage
    cases passage with
    | restored _ lists back =>
      obtain rfl := Sight.eq_of_lists listed lists
      exact restoredVerdict_eq_ok_iff_forall.2 (same ▸ back)
    | lost _ none => exact absurd none some

theorem of_signalled (phase : f.status.pruningPhase = .restoringPod) :
    Conforms f spec (x.asked timing f) (x.outcome timing f spec now).patch := by
  simp only [Sight.outcome, phase]
  unfold restoration
  cases hr : f.registered with
  | error e =>
    obtain rfl := registered_eq_error hr
    exact .goes (.lost (by simp [phase]) (candidates_eq_nil_iff.2 hr)) rfl
  | ok s =>
    have passage : Passage f spec (x.asked timing f) _ _ :=
      .signalled (candidates_of_registered hr).1
    refine .goes (phase ▸ passage) ?_
    show (Patch.apply (_ ++ [.setPhase .confirmPodRestoration]) f.status).pruningPhase = _
    rw [Patch.apply_append]
    rfl

theorem of_ends {log : Errand.Log} {o : StepOutcome}
    (step : (pruneStep timing f spec now).Ends log o) : Conforms f spec log o.patch := by
  obtain ⟨x, rfl, rfl⟩ := ends_pruneStep_iff.1 step
  cases phase : f.status.pruningPhase with
  | findingCandidate => exact of_search phase
  | waitingForPodReplaced => exact of_replaced phase
  | waitingForComplete => exact of_pruned phase
  | restoringPod => exact of_signalled phase
  | confirmPodRestoration => exact of_restored phase

end Conforms

/-- **One step.**  A step goes from the phase of the status to another exactly where there is a way,
and where there is none it leaves the status as it is, once pruning has begun. -/
theorem passage_of_ends {log : Errand.Log} {o : StepOutcome}
    (step : (pruneStep timing f spec now).Ends log o) :
    (∀ dst, (o.patch.apply f.status).pruningPhase = dst ∧ dst ≠ f.status.pruningPhase ↔
      Passage f spec log f.status.pruningPhase dst) ∧
    ((∀ dst, ¬Passage f spec log f.status.pruningPhase dst) →
      o.patch.apply f.status = f.status.opened) := by
  cases Conforms.of_ends step with
  | goes passage arrives =>
    refine ⟨fun dst => ⟨fun ⟨h, _⟩ => h ▸ arrives ▸ passage, fun h => ?_⟩,
      fun none => absurd passage (none _)⟩
    exact ⟨arrives.trans (passage.unique h), h.ne⟩
  | stays blocked unchanged =>
    rw [unchanged, apply_opening]
    refine ⟨fun dst => ⟨fun ⟨h, away⟩ => ?_, fun h => absurd h (blocked dst)⟩, fun _ => rfl⟩
    rw [pruningPhase_opened] at h
    exact absurd h.symm away

end

/-! ### A step that goes on

Of two candidates the one has a pruning pod that has ended, the other none any more. -/

namespace Halfway

def pod (name : String) : Pod := ⟨name, "default", 0, "data-" ++ name, none, []⟩

def books : PruningStatus :=
  { phase := .waitingForComplete
    candidates := .ofList [("default.osmosis-0", ⟨"osmosis-0", "default"⟩),
      ("default.osmosis-1", ⟨"osmosis-1", "default"⟩)] }

def fleet : Fleet :=
  { key := ⟨"default", "osmosis"⟩, spec := { replicas := 3 }
    status := { healing := { pruning := some books } } }

def spec : PruningSpec := { trigger := 80 }

def pods : List Pod :=
  [pod "osmosis-2", { pod "osmosis-0-pruner" with containers := [⟨"prune", .terminated 0⟩] }]

def sight : Sight := ⟨none, none, some (.ok pods)⟩

def outcome : StepOutcome := sight.outcome {} fleet spec ⟨0, false⟩

theorem ends : (pruneStep {} fleet spec ⟨0, false⟩).Ends (sight.asked {} fleet) outcome :=
  ends_pruneStep_iff.2 ⟨sight, rfl, rfl⟩

theorem registered : fleet.registered = .ok books :=
  registered_eq_ok_iff.2 ⟨rfl, by decide +kernel⟩

theorem passage :
    Passage fleet spec (sight.asked {} fleet) .waitingForComplete .restoringPod := by
  obtain ⟨some, same⟩ := candidates_of_registered registered
  have complete : isComplete books pods = true := by decide +kernel
  exact .pruned some (Sight.lists_of_pods registered rfl rfl) (same ▸ isComplete_iff.1 complete)

end Halfway

open Halfway in
/-- The step goes on to restore the pods. -/
theorem passage_of_ends_halfway :
    (pruneStep {} fleet spec ⟨0, false⟩).Ends (sight.asked {} fleet) outcome ∧
      Passage fleet spec (sight.asked {} fleet) .waitingForComplete .restoringPod ∧
      (outcome.patch.apply fleet.status).pruningPhase = .restoringPod :=
  ⟨ends, passage, (((passage_of_ends ends).1 .restoringPod).2 passage).1⟩

/-- **Pruning begins.**  A step that finds no way on may change the status all the same: where
pruning has not begun, it does. -/
theorem begun_without_passage :
    ¬∀ (timing : PruningTiming) (f : Fleet) (spec : PruningSpec) (now : Time) (log : Errand.Log)
        (o : StepOutcome),
      (pruneStep timing f spec now).Ends log o →
        (∀ dst, ¬Passage f spec log f.status.pruningPhase dst) →
        o.patch.apply f.status = f.status := by
  intro same
  let f : Fleet := { key := ⟨"default", "osmosis"⟩, spec := { replicas := 3 } }
  let x : Sight := ⟨some (.ok []), some [], none⟩
  have blocked (dst : PruningPhase) :
      ¬Passage f { trigger := 80 } (x.asked {} f) .findingCandidate dst := by
    rintro (⟨uses, collects, chosen⟩ | _)
    · cases Sight.items_of_collects collects
      cases chosen
    · contradiction
  have h := same {} f { trigger := 80 } ⟨0, false⟩ (x.asked {} f) _
    (ends_pruneStep_iff.2 ⟨x, rfl, rfl⟩) blocked
  cases congrArg (fun s => s.healing.pruning) h

end FleetMend
