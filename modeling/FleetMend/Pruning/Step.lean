import FleetMend.Event.Basic
import FleetMend.Pruning.Checks

/-!
Pruning, one step at a time.

* `PruningTiming`: how long to wait between steps, and for a reply.
* `pruneStep`: looks at the phase of the status, goes on by one phase at most, and writes down the
  changes.  A check that fails leaves the phase as it is; where the candidates are lost, the circle
  starts over.
-/

namespace FleetMend

/-- The waiting times of pruning, in milliseconds. -/
structure PruningTiming where
  /-- Before the next step. -/
  retryDelay : Nat := 10000
  /-- Before the next look at a pruning job that still runs. -/
  pollDelay : Nat := 30000
  /-- At most, for the synced pods. -/
  candidateTimeout : Nat := 10000
  /-- At most, for the disk usage or the list of pods. -/
  ioTimeout : Nat := 10000
deriving DecidableEq, Inhabited

/-- What one step came to. -/
structure StepOutcome where
  /-- The phase in which the step found the status. -/
  phase : PruningPhase
  /-- The milliseconds until the next step. -/
  requeueAfter : Nat
  events : List Event := []
  error : Option PruneError := none
  patch : Patch := []

/-- The phase of a status; before pruning first runs, it is the first. -/
def FleetStatus.pruningPhase (s : FleetStatus) : PruningPhase := s.healing.pruningOrNew.phase

/-- What is written down before anything else: the first phase, before pruning first runs. -/
def opening (s : FleetStatus) : Patch :=
  if s.healing.pruning.isNone then [.setPhase .findingCandidate] else []

/-- It leaves the status of pruning as it is taken to be where there is none. -/
theorem pruningOrNew_opening (s : FleetStatus) :
    ((opening s).apply s).healing.pruningOrNew = s.healing.pruningOrNew := by
  unfold opening
  cases hp : s.healing.pruning with
  | none =>
    show ({ s.healing.pruningOrNew with phase := .findingCandidate } : PruningStatus) = _
    rw [HealingStatus.pruningOrNew, hp]
    rfl
  | some p => rfl

/-- What a failed check comes to, in a phase that reports a failure as `report`. -/
def StepOutcome.afterError (retry : StepOutcome) (e : PruneError) (report : String → Event) :
    StepOutcome :=
  if e = .noCandidates then
    { retry with
      events := [.pruningReset retry.phase e.message]
      patch := [.clearCandidates, .setPhase .findingCandidate] }
  else if e.isPending then { retry with events := [report e.message] }
  else { retry with events := [report e.message], error := some e }

/-! ### What an observation leads to -/

namespace StepOutcome

variable (retry : StepOutcome)

/-- The pod found is taken out, if one was found. -/
def afterSearch (now : Time) : Except PruneError (Option Pod) → StepOutcome
  | .error e => { retry with error := some e }
  | .ok none => retry
  | .ok (some pod) =>
    { retry with
      events := [.candidateFound pod.name]
      patch := retry.patch ++ [takeOut pod now, .setPhase .waitingForPodReplaced] }

def afterReplacement : Except PruneError Unit → StepOutcome
  | .error e => retry.afterError e .podReplacementPending
  | .ok () => { retry with patch := [.setPhase .waitingForComplete] }

def afterPruning (timing : PruningTiming) (pods : List String) :
    Except PruneError Bool → StepOutcome
  | .error e => retry.afterError e .pruningCheckFailed
  | .ok true =>
    { retry with events := [.pruningComplete pods], patch := [.setPhase .restoringPod] }
  | .ok false => { retry with requeueAfter := timing.pollDelay }

def afterSignal : Except PruneError Patch → StepOutcome
  | .error e => retry.afterError e .podRestorationFailed
  | .ok clears => { retry with patch := clears ++ [.setPhase .confirmPodRestoration] }

def afterRestoration (pods : List String) : Except PruneError Unit → StepOutcome
  | .error e => retry.afterError e .podRestorationPending
  | .ok () =>
    { retry with
      events := [.podRestored pods]
      patch := [.clearCandidates, .setPhase .findingCandidate] }

end StepOutcome

/-! ### The step -/

/-- Looks for a pod to take out. -/
def startPruning (timing : PruningTiming) (f : Fleet) (spec : PruningSpec) (now : Time)
    (retry : StepOutcome) : Errand StepOutcome := do
  match ← collectUsage timing.ioTimeout f with
  | .error e => pure { retry with events := [.pruningUsageCollectionFailed], error := some e }
  | .ok usage => retry.afterSearch now <$> findCandidate timing.candidateTimeout f spec usage

/-- The candidates of a fleet, by name. -/
def Fleet.candidatePods (f : Fleet) : List String := f.status.healing.pruningOrNew.pods

/-- One step of pruning. -/
def pruneStep (timing : PruningTiming) (f : Fleet) (spec : PruningSpec) (now : Time) :
    Errand StepOutcome :=
  let phase := f.status.pruningPhase
  let retry : StepOutcome :=
    { phase, requeueAfter := timing.retryDelay, patch := opening f.status }
  match phase with
  | .findingCandidate => startPruning timing f spec now retry
  | .waitingForPodReplaced => retry.afterReplacement <$> confirmReplaced timing.ioTimeout f
  | .waitingForComplete =>
    retry.afterPruning timing f.candidatePods <$> checkComplete timing.ioTimeout f
  | .restoringPod => pure (retry.afterSignal (restoration f))
  | .confirmPodRestoration =>
    retry.afterRestoration f.candidatePods <$> confirmRestored timing.ioTimeout f

end FleetMend
