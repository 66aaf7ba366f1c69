import FleetMend.Fleet.Codec.Pod
import FleetMend.Fleet.Status

/-!
The status of a fleet as JSON.

* `FleetStatus.toJson`, `FleetStatus.ofJson?`: every part, with what stands for a part that is left
  out.
-/

namespace FleetMend

namespace SyncInfo

def toJson (s : SyncInfo) : Json :=
  .obj [("timestamp", s.observedAt.toJson), ("height", .ofOption Json.ofUInt64 s.height),
    ("inSync", .ofOption .bool s.inSync), ("error", .ofOption .str s.error),
    ("lastBlockTimestamp", s.lastBlockAt.toJson), ("heightRetainTime", s.flatFor.toJson)]

def ofJson? (j : Json) : Option SyncInfo := do
  let m ← j.members?
    ["timestamp", "height", "inSync", "error", "lastBlockTimestamp", "heightRetainTime"]
  some {
    observedAt := ← m.required "timestamp" Time.ofJson?
    height := ← m.defaulted "height" (Json.option? Json.uint64?) none
    inSync := ← m.defaulted "inSync" (Json.option? Json.bool?) none
    error := ← m.defaulted "error" (Json.option? Json.str?) none
    lastBlockAt := ← m.required "lastBlockTimestamp" Time.ofJson?
    flatFor := ← m.required "heightRetainTime" Span.ofJson? }

end SyncInfo

namespace ResizeRequest

def toJson (r : ResizeRequest) : Json :=
  .obj [("requestedSize", r.size.toJson), ("requestedAt", r.requestedAt.toJson)]

def ofJson? (j : Json) : Option ResizeRequest := do
  let m ← j.members? ["requestedSize", "requestedAt"]
  some {
    size := ← m.required "requestedSize" Quantity.ofJson?
    requestedAt := ← m.required "requestedAt" Time.ofJson? }

end ResizeRequest

namespace RegenPhase

def name : RegenPhase → String
  | notYet => "NotYet"
  | regenerating => "Regenerating"

def ofJson? (j : Json) : Option RegenPhase :=
  match j.plainChoice? with
  | some "NotYet" => some notYet
  | some "Regenerating" => some regenerating
  | _ => none

end RegenPhase

namespace FailureLog

def toJson (l : FailureLog) : Json :=
  .obj [("failureTimes", .ofList Time.toJson l.times), ("phase", .str l.phase.name)]

def ofJson? (j : Json) : Option FailureLog := do
  let m ← j.members? ["failureTimes", "phase"]
  some {
    times := ← m.defaulted "failureTimes" (Json.list? Time.ofJson?) []
    phase := ← m.defaulted "phase" RegenPhase.ofJson? .notYet }

end FailureLog

def PruningPhase.ofJson? (j : Json) : Option PruningPhase :=
  match j.plainChoice? with
  | some "FindingCandidate" => some findingCandidate
  | some "WaitingForPodReplaced" => some waitingForPodReplaced
  | some "WaitingForComplete" => some waitingForComplete
  | some "RestoringPod" => some restoringPod
  | some "ConfirmPodRestoration" => some confirmPodRestoration
  | _ => none

namespace Candidate

def toJson (c : Candidate) : Json := .obj [("podName", .str c.pod), ("namespace", .str c.space)]

def ofJson? (j : Json) : Option Candidate := do
  let m ← j.members? ["podName", "namespace"]
  some {
    pod := ← m.required "podName" Json.str?
    space := ← m.required "namespace" Json.str? }

end Candidate

namespace PruningStatus

def toJson (p : PruningStatus) : Json :=
  .obj [("phase", .str p.phase.name), ("candidates", .ofMap Candidate.toJson p.candidates),
    ("podPruningStatus", .ofMap Time.toJson p.substituted)]

def ofJson? (j : Json) : Option PruningStatus := do
  let m ← j.members? ["phase", "candidates", "podPruningStatus"]
  some {
    phase := ← m.required "phase" PruningPhase.ofJson?
    candidates := ← m.defaulted "candidates" (Json.map? Candidate.ofJson?) ∅
    substituted := ← m.defaulted "podPruningStatus" (Json.map? Time.ofJson?) ∅ }

end PruningStatus

namespace HealingStatus

def toJson (h : HealingStatus) : Json :=
  .obj [("pvcAutoScale", .ofMap ResizeRequest.toJson h.resizes),
    ("regenPvc", .ofMap FailureLog.toJson h.failures),
    ("pruning", .ofOption PruningStatus.toJson h.pruning)]

def ofJson? (j : Json) : Option HealingStatus := do
  let m ← j.members? ["pvcAutoScale", "regenPvc", "pruning"]
  some {
    resizes := ← m.defaulted "pvcAutoScale" (Json.map? ResizeRequest.ofJson?) ∅
    failures := ← m.defaulted "regenPvc" (Json.map? FailureLog.ofJson?) ∅
    pruning := ← m.defaulted "pruning" (Json.option? PruningStatus.ofJson?) none }

end HealingStatus

namespace FleetStatus

def toJson (s : FleetStatus) : Json :=
  .obj [("syncInfo", .ofMap SyncInfo.toJson s.syncInfo), ("selfHealing", s.healing.toJson)]

def ofJson? (j : Json) : Option FleetStatus := do
  let m ← j.members? ["syncInfo", "selfHealing"]
  some {
    syncInfo := ← m.defaulted "syncInfo" (Json.map? SyncInfo.ofJson?) ∅
    healing := ← m.defaulted "selfHealing" HealingStatus.ofJson? {} }

end FleetStatus

end FleetMend
