import FleetMend.Fleet.Codec.Pod
import FleetMend.Fleet.Spec

/-!
The spec of a fleet as JSON.

* `FleetSpec.toJson`, `FleetSpec.ofJson?`: every part, with what stands for a part that is left out.
-/

namespace FleetMend

namespace Share

def toJson : Share → Json
  | count n => .int n.toInt
  | text s => .str s

def ofJson? (j : Json) : Option Share :=
  match j.int64?, j.str? with
  | some n, _ => some (count n)
  | none, some s => some (text s)
  | none, none => none

end Share

namespace RolloutStrategy

def toJson (r : RolloutStrategy) : Json :=
  .obj [("maxUnavailable", .ofOption Share.toJson r.maxUnavailable)]

def ofJson? (j : Json) : Option RolloutStrategy := do
  let m ← j.members? ["maxUnavailable"]
  some { maxUnavailable := ← m.defaulted "maxUnavailable" (Json.option? Share.ofJson?) none }

end RolloutStrategy

namespace AutoscaleSpec

def toJson (s : AutoscaleSpec) : Json :=
  .obj [("usedSpacePercentage", .ofUInt32 s.trigger), ("increaseQuantity", .str s.increase),
    ("maxSize", .ofOption Quantity.toJson s.ceiling)]

def ofJson? (j : Json) : Option AutoscaleSpec := do
  let m ← j.members? ["usedSpacePercentage", "increaseQuantity", "maxSize"]
  some {
    trigger := ← m.required "usedSpacePercentage" Json.uint32?
    increase := ← m.required "increaseQuantity" Json.str?
    ceiling := ← m.defaulted "maxSize" (Json.option? Quantity.ofJson?) none }

end AutoscaleSpec

namespace RegenerateSpec

def toJson (s : RegenerateSpec) : Json :=
  .obj [("failedCountCollectionDuration", s.window.toJson),
    ("thresholdCount", .ofUInt32 s.threshold)]

def ofJson? (j : Json) : Option RegenerateSpec := do
  let m ← j.members? ["failedCountCollectionDuration", "thresholdCount"]
  some {
    window := ← m.required "failedCountCollectionDuration" Span.ofJson?
    threshold := ← m.required "thresholdCount" Json.uint32? }

end RegenerateSpec

namespace DriftSpec

def toJson (s : DriftSpec) : Json :=
  .obj [("thresholdHeight", .ofUInt64 s.threshold),
    ("maxHeightRetentionTime", .ofOption Span.toJson s.retention),
    ("regeneratePvc", .ofOption RegenerateSpec.toJson s.regenerate)]

def ofJson? (j : Json) : Option DriftSpec := do
  let m ← j.members? ["thresholdHeight", "maxHeightRetentionTime", "regeneratePvc"]
  some {
    threshold := ← m.required "thresholdHeight" Json.uint64?
    retention := ← m.defaulted "maxHeightRetentionTime" (Json.option? Span.ofJson?) none
    regenerate := ← m.defaulted "regeneratePvc" (Json.option? RegenerateSpec.ofJson?) none }

end DriftSpec

namespace Backend

def name : Backend → String
  | goleveldb => "goleveldb"
  | pebbledb => "pebbledb"

def ofJson? (j : Json) : Option Backend :=
  match j.plainChoice? with
  | some "goleveldb" => some goleveldb
  | some "pebbledb" => some pebbledb
  | _ => none

end Backend

namespace PruningSpec

def toJson (s : PruningSpec) : Json :=
  .obj [("usedSpacePercentage", .ofUInt32 s.trigger),
    ("minAvailable", .ofOption Json.ofUInt32 s.minAvailable), ("dataDir", .str s.dataDir),
    ("blocks", .ofUInt64 s.blocks), ("versions", .ofUInt64 s.versions),
    ("cosmosSdk", .bool s.cosmosSdk), ("tendermint", .bool s.tendermint),
    ("txIndex", .bool s.txIndex), ("compact", .bool s.compact), ("backend", .str s.backend.name)]

def ofJson? (j : Json) : Option PruningSpec := do
  let m ← j.members? ["usedSpacePercentage", "minAvailable", "dataDir", "blocks", "versions",
    "cosmosSdk", "tendermint", "txIndex", "compact", "backend"]
  some {
    trigger := ← m.required "usedSpacePercentage" Json.uint32?
    minAvailable := ← m.defaulted "minAvailable" (Json.option? Json.uint32?) none
    dataDir := ← m.defaulted "dataDir" Json.str? ""
    blocks := ← m.defaulted "blocks" Json.uint64? 10
    versions := ← m.defaulted "versions" Json.uint64? 10
    cosmosSdk := ← m.defaulted "cosmosSdk" Json.bool? true
    tendermint := ← m.defaulted "tendermint" Json.bool? true
    txIndex := ← m.defaulted "txIndex" Json.bool? true
    compact := ← m.defaulted "compact" Json.bool? true
    backend := ← m.defaulted "backend" Backend.ofJson? .goleveldb }

end PruningSpec

namespace HealSpec

def toJson (s : HealSpec) : Json :=
  .obj [("pvcAutoScale", .ofOption AutoscaleSpec.toJson s.autoscale),
    ("heightDriftMitigation", .ofOption DriftSpec.toJson s.drift),
    ("pruning", .ofOption PruningSpec.toJson s.pruning)]

def ofJson? (j : Json) : Option HealSpec := do
  let m ← j.members? ["pvcAutoScale", "heightDriftMitigation", "pruning"]
  some {
    autoscale := ← m.defaulted "pvcAutoScale" (Json.option? AutoscaleSpec.ofJson?) none
    drift := ← m.defaulted "heightDriftMitigation" (Json.option? DriftSpec.ofJson?) none
    pruning := ← m.defaulted "pruning" (Json.option? PruningSpec.ofJson?) none }

end HealSpec

namespace FleetSpec

def toJson (s : FleetSpec) : Json :=
  .obj [("replicas", .ofUInt32 s.replicas), ("rolloutStrategy", s.rollout.toJson),
    ("selfHeal", .ofOption HealSpec.toJson s.heal)]

def ofJson? (j : Json) : Option FleetSpec := do
  let m ← j.members? ["replicas", "rolloutStrategy", "selfHeal"]
  some {
    replicas := ← m.required "replicas" Json.uint32?
    rollout := ← m.defaulted "rolloutStrategy" RolloutStrategy.ofJson? {}
    heal := ← m.defaulted "selfHeal" (Json.option? HealSpec.ofJson?) none }

end FleetSpec

end FleetMend
