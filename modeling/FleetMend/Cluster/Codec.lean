import FleetMend.Cluster.Call
import FleetMend.Fleet.Codec.Pod

/-!
Volume claims as JSON.

* `VolumeClaim.toJson`, `VolumeClaim.ofJson?`: the claim by its names.
-/

namespace FleetMend.VolumeClaim

def toJson (c : VolumeClaim) : Json :=
  .obj [("name", .str c.name), ("namespace", .str c.space),
    ("capacity", .ofOption Quantity.toJson c.capacity)]

def ofJson? (j : Json) : Option VolumeClaim := do
  let m ← j.members? ["name", "namespace", "capacity"]
  some {
    name := ← m.required "name" Json.str?
    space := ← m.required "namespace" Json.str?
    capacity := ← m.optional "capacity" Quantity.ofJson? }

end FleetMend.VolumeClaim
