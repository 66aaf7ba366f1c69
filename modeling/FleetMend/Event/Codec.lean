import FleetMend.Event.Basic
import FleetMend.Fleet.Codec.Status

/-!
Events as JSON.

* `Event.toJson`, `Event.ofJson?`: the kind of the event with what it carries.
* `Span.toParts`, `Span.ofParts?`: a span as seconds and nanoseconds.
-/

namespace FleetMend

/-- The whole seconds, and the nanoseconds over them. -/
def Span.toParts (s : Span) : Json :=
  .obj [("secs", .ofNat (s.nanos / 1000000000)), ("nanos", .ofNat (s.nanos % 1000000000))]

/-- Seconds and nanoseconds and nothing else; the seconds have to fit 64 bits after a carry. -/
def Span.ofParts? (j : Json) : Option Span := do
  let m ← j.members? ["secs", "nanos"]
  let known : Bool := match j with
    | .obj fields => fields.all fun f => f.1 = "secs" ∨ f.1 = "nanos"
    | _ => true
  let secs ← m.required "secs" Json.nat64?
  let nanos ← m.required "nanos" Json.uint32?
  if known ∧ secs + nanos.toNat / 1000000000 < Nat.pow 2 64 then
    some ⟨secs * 1000000000 + nanos.toNat⟩
  else none

namespace Event

def toJson : Event → Json
  | resizeRequested volumes => tagged "PvcResizeRequested" [("volumes", .ofList .str volumes)]
  | usageCollectionFailed => .str "PvcUsageCollectionFailed"
  | resizeSignalFailed reason => tagged "PvcResizeSignalFailed" [("reason", .str reason)]
  | podsDeletedForDrift threshold retention deleted =>
    tagged "PodsDeletedForDrift" [("threshold_height", .ofUInt64 threshold),
      ("retention_time", .ofOption Span.toParts retention), ("deleted", .ofNat deleted)]
  | driftPodDeleteFailed pod reason =>
    tagged "DriftPodDeleteFailed" [("pod", .str pod), ("reason", .str reason)]
  | claimRegenerating pod window =>
    tagged "PvcRegenerating" [("pod", .str pod), ("window", window.toParts)]
  | claimRegenerationFailed pod reason =>
    tagged "PvcRegenerationFailed" [("pod", .str pod), ("reason", .str reason)]
  | pruningUsageCollectionFailed => .str "PruningUsageCollectionFailed"
  | candidateFound pod => tagged "PruningCandidateFound" [("pod", .str pod)]
  | podReplacementPending reason => tagged "PodReplacementPending" [("reason", .str reason)]
  | pruningReset phase reason =>
    tagged "PruningPhaseReset" [("from", .str phase.name), ("reason", .str reason)]
  | pruningCheckFailed reason => tagged "PruningCheckFailed" [("reason", .str reason)]
  | pruningComplete pods => tagged "PruningComplete" [("pods", .ofList .str pods)]
  | podRestorationFailed reason => tagged "PodRestorationFailed" [("reason", .str reason)]
  | podRestorationPending reason => tagged "PodRestorationPending" [("reason", .str reason)]
  | podRestored pods => tagged "PodRestored" [("pods", .ofList .str pods)]
  | statusPersistFailed reason => tagged "StatusPersistFailed" [("reason", .str reason)]
where
  tagged (name : String) (fields : List (String × Json)) : Json := .obj [(name, .obj fields)]

/-- The event of a kind that carries members. -/
def ofMembers? (name : String) (m : Json.Members) : Option Event :=
  let text (field : String) : Option String := m.required field Json.str?
  let texts (field : String) : Option (List String) := m.required field (Json.list? Json.str?)
  match name with
  | "PvcResizeRequested" => (texts "volumes").map resizeRequested
  | "PvcResizeSignalFailed" => (text "reason").map resizeSignalFailed
  | "PodsDeletedForDrift" => do
    some (podsDeletedForDrift (← m.required "threshold_height" Json.uint64?)
      (← m.optional "retention_time" Span.ofParts?) (← m.required "deleted" Json.nat64?))
  | "DriftPodDeleteFailed" => do some (driftPodDeleteFailed (← text "pod") (← text "reason"))
  | "PvcRegenerating" => do
    some (claimRegenerating (← text "pod") (← m.required "window" Span.ofParts?))
  | "PvcRegenerationFailed" => do some (claimRegenerationFailed (← text "pod") (← text "reason"))
  | "PruningCandidateFound" => (text "pod").map candidateFound
  | "PodReplacementPending" => (text "reason").map podReplacementPending
  | "PruningPhaseReset" => do
    some (pruningReset (← m.required "from" PruningPhase.ofJson?) (← text "reason"))
  | "PruningCheckFailed" => (text "reason").map pruningCheckFailed
  | "PruningComplete" => (texts "pods").map pruningComplete
  | "PodRestorationFailed" => (text "reason").map podRestorationFailed
  | "PodRestorationPending" => (text "reason").map podRestorationPending
  | "PodRestored" => (texts "pods").map podRestored
  | "StatusPersistFailed" => (text "reason").map statusPersistFailed
  | _ => none

def ofJson? (j : Json) : Option Event :=
  match j.plainChoice?, j.choice? with
  | some "PvcUsageCollectionFailed", _ => some usageCollectionFailed
  | some "PruningUsageCollectionFailed", _ => some pruningUsageCollectionFailed
  | _, some (name, some (.obj fields)) => do ofMembers? name (← (Json.obj fields).members? [])
  | _, _ => none

end Event

end FleetMend
