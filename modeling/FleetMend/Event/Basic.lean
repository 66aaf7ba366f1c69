import FleetMend.Fleet.Status
import FleetMend.Time.SpanText

/-!
What the controller tells the operator.

* `Event.reason`, `Event.severity`, `Event.message`: a short reason, how grave it is, and a
  sentence.
-/

namespace FleetMend

inductive Severity
  | info
  | warning
deriving DecidableEq

def Severity.name : Severity → String
  | info => "Info"
  | warning => "Warning"

/-- An action taken, or a failure worth knowing of. -/
inductive Event
  | resizeRequested (volumes : List String)
  | usageCollectionFailed
  | resizeSignalFailed (reason : String)
  | podsDeletedForDrift (threshold : UInt64) (retention : Option Span) (deleted : Nat)
  | driftPodDeleteFailed (pod reason : String)
  | claimRegenerating (pod : String) (window : Span)
  | claimRegenerationFailed (pod reason : String)
  | pruningUsageCollectionFailed
  | candidateFound (pod : String)
  | podReplacementPending (reason : String)
  | pruningReset (phase : PruningPhase) (reason : String)
  | pruningCheckFailed (reason : String)
  | pruningComplete (pods : List String)
  | podRestorationFailed (reason : String)
  | podRestorationPending (reason : String)
  | podRestored (pods : List String)
  | statusPersistFailed (reason : String)
deriving DecidableEq

namespace Event

def reason : Event → String
  | resizeRequested _ => "PVCAutoScale"
  | usageCollectionFailed => "PVCAutoScaleCollectUsage"
  | resizeSignalFailed _ => "PVCAutoScaleSignalResize"
  | podsDeletedForDrift .. => "HeightDriftMitigation"
  | driftPodDeleteFailed .. => "HeightDriftMitigationDeletePod"
  | claimRegenerating .. | claimRegenerationFailed .. => "PVCRegenerating"
  | pruningUsageCollectionFailed | candidateFound _ | podReplacementPending _ | pruningReset ..
  | pruningComplete _ | podRestored _ => "PVCPruning"
  | pruningCheckFailed _ => "PruningCheckingError"
  | podRestorationFailed _ => "PodRestorationError"
  | podRestorationPending _ => "ConfirmPodRestorationErr"
  | statusPersistFailed _ => "StatusPersistFailed"

def severity : Event → Severity
  | resizeRequested _ | podsDeletedForDrift .. | claimRegenerating .. | candidateFound _
  | pruningComplete _ | podRestored _ => .info
  | _ => .warning

def commaList (names : List String) : String := ", ".intercalate names

def message : Event → String
  | resizeRequested volumes => "PVC auto scaling requested disk expansion for " ++ commaList volumes
  | usageCollectionFailed | pruningUsageCollectionFailed => "failed to collect pvc disk usage"
  | resizeSignalFailed reason => s!"failed to signal pvc resize: {reason}"
  | podsDeletedForDrift threshold retention deleted =>
    let flat := match retention with
      | some span => s!" or stayed flat for at least {span.text}"
      | none => ""
    s!"Height lagged behind by {threshold.toNat} or more blocks{flat}; deleted {deleted} pod(s)"
  | driftPodDeleteFailed pod reason => s!"failed to delete pod {pod}: {reason}"
  | claimRegenerating pod window =>
    s!"Pod {pod} exceeded its failure threshold within {window.text}. Re-generating PVC..."
  | claimRegenerationFailed pod reason => s!"failed to regenerate pvc for pod {pod}: {reason}"
  | candidateFound pod => s!"Pruning candidate found: {pod}"
  | podReplacementPending reason => s!"waiting for pod replacement: {reason}"
  | pruningReset phase reason =>
    s!"pruning reset from {phase.name} to {PruningPhase.findingCandidate.name}: {reason}"
  | pruningCheckFailed reason => s!"failed to check pruning status: {reason}"
  | pruningComplete pods => "Pruning complete for " ++ commaList pods
  | podRestorationFailed reason => s!"failed to restore pod: {reason}"
  | podRestorationPending reason => s!"failed to confirm pod restoration: {reason}"
  | podRestored pods => "Pod restored after pruning: " ++ commaList pods
  | statusPersistFailed reason => s!"failed to persist status: {reason}"

end Event

end FleetMend
