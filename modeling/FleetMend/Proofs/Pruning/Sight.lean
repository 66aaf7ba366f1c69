import FleetMend.Proofs.Dialogue
import FleetMend.Pruning.Step

/-!
What a step of pruning gets to see, and what it makes of it.

* `Sight`: a reply to each of the calls that a step can make.
* `Sight.outcome`, `Sight.asked`: what a step comes to that gets these replies, and which of the
  calls it makes.
* `ends_pruneStep_iff`: every dialogue of a step is one of these.
-/

namespace FleetMend

/-- The replies to the calls of a step; nothing where a call is given up. -/
structure Sight where
  usage : Option (Except HealthError (List DiskUsage))
  items : Option (List StatusItem)
  pods : Option (Except String (List Pod))

instance : Inhabited Sight := ⟨⟨none, none, none⟩⟩

/-- The calls of an errand, each with its reply. -/
abbrev Errand.Log : Type := Program.Log Request Request.Answer

/-! ### Replies -/

/-- The pods of a listing that was waited for so long. -/
def listed (timeout : Nat) : Option (Except String (List Pod)) → Except PruneError (List Pod)
  | none => .error (.timedOut "list pods" timeout)
  | some (.error reason) => .error (.listPods reason)
  | some (.ok pods) => .ok pods

/-- The disk usage that was waited for so long. -/
def used (timeout : Nat) :
    Option (Except HealthError (List DiskUsage)) → Except PruneError (List DiskUsage)
  | none => .error (.timedOut "collect disk usage" timeout)
  | some (.error e) => .error (.collectUsage e.message)
  | some (.ok usage) => .ok usage

/-- The candidate among the synced pods that were waited for so long. -/
def found (timeout : Nat) (spec : PruningSpec) (usage : List DiskUsage) :
    Option (List StatusItem) → Except PruneError (Option Pod)
  | none => .error (.timedOut "collect synced pods" timeout)
  | some items => .ok (chooseCandidate spec (syncedPods items) usage)

/-- The verdict on the candidates of a fleet, by a listing. -/
def judged {α : Type} (timeout : Nat) (f : Fleet)
    (verdict : PruningStatus → List Pod → Except PruneError α)
    (x : Option (Except String (List Pod))) : Except PruneError α :=
  match f.registered with
  | .error e => .error e
  | .ok s =>
    match listed timeout x with
    | .error e => .error e
    | .ok pods => verdict s pods

theorem listPods_eq (timeout : Nat) (f : Fleet) :
    listPods timeout f = listed timeout <$> Errand.callWithin (.listPods f) timeout := by
  refine congrArg (Program.ask _) (funext fun x => ?_)
  rcases x with _ | _ | _ <;> rfl

theorem collectUsage_eq (timeout : Nat) (f : Fleet) :
    collectUsage timeout f = used timeout <$> Errand.callWithin (.collectUsage f) timeout := by
  refine congrArg (Program.ask _) (funext fun x => ?_)
  rcases x with _ | _ | _ <;> rfl

theorem findCandidate_eq (timeout : Nat) (f : Fleet) (spec : PruningSpec)
    (usage : List DiskUsage) :
    findCandidate timeout f spec usage =
      found timeout spec usage <$> Errand.callWithin (.collectStatus f) timeout := by
  refine congrArg (Program.ask _) (funext fun x => ?_)
  cases x <;> rfl

theorem ends_listPods_iff {timeout : Nat} {f : Fleet} {log : Errand.Log}
    {r : Except PruneError (List Pod)} :
    (listPods timeout f).Ends log r ↔
      ∃ x, log = [⟨Request.callWithin (.listPods f) timeout, x⟩] ∧ r = listed timeout x := by
  rw [listPods_eq]
  exact Program.ends_map_put_iff

theorem ends_collectUsage_iff {timeout : Nat} {f : Fleet} {log : Errand.Log}
    {r : Except PruneError (List DiskUsage)} :
    (collectUsage timeout f).Ends log r ↔
      ∃ x, log = [⟨Request.callWithin (.collectUsage f) timeout, x⟩] ∧ r = used timeout x := by
  rw [collectUsage_eq]
  exact Program.ends_map_put_iff

theorem ends_findCandidate_iff {timeout : Nat} {f : Fleet} {spec : PruningSpec}
    {usage : List DiskUsage} {log : Errand.Log} {r : Except PruneError (Option Pod)} :
    (findCandidate timeout f spec usage).Ends log r ↔
      ∃ x, log = [⟨Request.callWithin (.collectStatus f) timeout, x⟩] ∧
        r = found timeout spec usage x := by
  rw [findCandidate_eq]
  exact Program.ends_map_put_iff

/-- The listing that a verdict takes, if it takes one. -/
def listing (timeout : Nat) (f : Fleet) (x : Option (Except String (List Pod))) : Errand.Log :=
  match f.registered with
  | .error _ => []
  | .ok _ => [⟨Request.callWithin (.listPods f) timeout, (x : Option (Except String (List Pod)))⟩]

theorem ends_judgeListed_iff {α : Type} {timeout : Nat} {f : Fleet}
    {verdict : PruningStatus → List Pod → Except PruneError α} {log : Errand.Log}
    {r : Except PruneError α} :
    (judgeListed timeout f verdict).Ends log r ↔
      ∃ x, log = listing timeout f x ∧ r = judged timeout f verdict x := by
  unfold judgeListed listing judged
  cases f.registered with
  | error e =>
    refine Program.ends_done_iff.trans ⟨fun h => ⟨none, h⟩, fun ⟨_, h⟩ => h⟩
  | ok s =>
    simp only [Program.ends_bind_iff, ends_listPods_iff]
    constructor
    · rintro ⟨l₁, l₂, a, rfl, ⟨x, rfl, rfl⟩, h⟩
      refine ⟨x, ?_⟩
      cases hx : listed timeout x <;> rw [hx] at h <;>
        obtain ⟨rfl, rfl⟩ := Program.ends_done_iff.1 h <;> exact ⟨rfl, rfl⟩
    · rintro ⟨x, rfl, rfl⟩
      refine ⟨_, [], _, rfl, ⟨x, rfl, rfl⟩, ?_⟩
      cases listed timeout x <;> exact .done _

/-! ### The step -/

namespace Sight

variable (x : Sight) (timing : PruningTiming) (f : Fleet) (spec : PruningSpec) (now : Time)

/-- What a step starts from: nothing has happened, and the next step is due after a delay. -/
def retry : StepOutcome where
  phase := f.status.pruningPhase
  requeueAfter := timing.retryDelay
  patch := opening f.status

/-- What a step comes to that looks for a candidate. -/
def search (retry : StepOutcome) : StepOutcome :=
  match used timing.ioTimeout x.usage with
  | .error e => { retry with events := [.pruningUsageCollectionFailed], error := some e }
  | .ok usage => retry.afterSearch now (found timing.candidateTimeout spec usage x.items)

/-- The calls of a step that looks for a candidate. -/
def searched : Errand.Log :=
  ⟨Request.callWithin (.collectUsage f) timing.ioTimeout, x.usage⟩ ::
    match used timing.ioTimeout x.usage with
    | .error _ => []
    | .ok _ => [⟨Request.callWithin (.collectStatus f) timing.candidateTimeout, x.items⟩]

/-- What a step comes to. -/
def outcome : StepOutcome :=
  let retry := retry timing f
  match f.status.pruningPhase with
  | .findingCandidate => x.search timing spec now retry
  | .waitingForPodReplaced =>
    retry.afterReplacement (judged timing.ioTimeout f replacedVerdict x.pods)
  | .waitingForComplete =>
    retry.afterPruning timing f.candidatePods
      (judged timing.ioTimeout f (fun s pods => .ok (isComplete s pods)) x.pods)
  | .restoringPod => retry.afterSignal (restoration f)
  | .confirmPodRestoration =>
    retry.afterRestoration f.candidatePods (judged timing.ioTimeout f restoredVerdict x.pods)

/-- The calls of a step. -/
def asked : Errand.Log :=
  match f.status.pruningPhase with
  | .findingCandidate => x.searched timing f
  | .restoringPod => []
  | .waitingForPodReplaced | .waitingForComplete | .confirmPodRestoration =>
    listing timing.ioTimeout f x.pods

end Sight

variable {timing : PruningTiming} {f : Fleet} {spec : PruningSpec} {now : Time}
  {log : Errand.Log}

theorem ends_startPruning_iff {retry o : StepOutcome} :
    (startPruning timing f spec now retry).Ends log o ↔
      ∃ x : Sight, log = x.searched timing f ∧ o = x.search timing spec now retry := by
  simp only [startPruning, Program.ends_bind_iff, ends_collectUsage_iff]
  unfold Sight.searched Sight.search
  constructor
  · rintro ⟨l₁, l₂, a, rfl, ⟨u, rfl, rfl⟩, h⟩
    cases hu : used timing.ioTimeout u with
    | error e =>
      rw [hu] at h
      obtain ⟨rfl, rfl⟩ := Program.ends_done_iff.1 h
      refine ⟨⟨u, none, none⟩, ?_⟩
      simp [hu]
    | ok usage =>
      simp only [hu, Program.ends_map_iff, ends_findCandidate_iff] at h
      obtain ⟨r, ⟨x, rfl, rfl⟩, rfl⟩ := h
      refine ⟨⟨u, x, none⟩, ?_⟩
      simp [hu]
  · rintro ⟨⟨u, items, pods⟩, rfl, rfl⟩
    refine ⟨[⟨Request.callWithin (.collectUsage f) timing.ioTimeout, u⟩], _, _, rfl,
      ⟨u, rfl, rfl⟩, ?_⟩
    cases hu : used timing.ioTimeout u with
    | error e => exact .done _
    | ok usage =>
      simp only [Program.ends_map_iff, ends_findCandidate_iff]
      exact ⟨_, ⟨items, rfl, rfl⟩, rfl⟩

/-- A step gets to see replies, and is a function of them. -/
theorem ends_pruneStep_iff {o : StepOutcome} :
    (pruneStep timing f spec now).Ends log o ↔
      ∃ x : Sight, log = x.asked timing f ∧ o = x.outcome timing f spec now := by
  unfold pruneStep Sight.asked Sight.outcome Sight.retry
  -- A phase with a verdict maps it; only the replies that it does not ask for are left open.
  have verdict {α : Type} (v : PruningStatus → List Pod → Except PruneError α)
      (g : Except PruneError α → StepOutcome) :
      (g <$> judgeListed timing.ioTimeout f v).Ends log o ↔
        ∃ x : Sight, log = listing timing.ioTimeout f x.pods ∧
          o = g (judged timing.ioTimeout f v x.pods) := by
    simp only [Program.ends_map_iff, ends_judgeListed_iff]
    constructor
    · rintro ⟨a, ⟨x, rfl, rfl⟩, rfl⟩
      exact ⟨⟨none, none, x⟩, rfl, rfl⟩
    · rintro ⟨x, rfl, rfl⟩
      exact ⟨_, ⟨x.pods, rfl, rfl⟩, rfl⟩
  generalize f.status.pruningPhase = phase
  cases phase with
  | findingCandidate => exact ends_startPruning_iff
  | waitingForPodReplaced => exact verdict _ _
  | waitingForComplete => exact verdict _ _
  | restoringPod =>
    refine Program.ends_done_iff.trans ⟨fun h => ⟨default, h⟩, fun ⟨_, h⟩ => h⟩
  | confirmPodRestoration => exact verdict _ _

end FleetMend
