import FleetMend.Fleet.Basic
import FleetMend.Fleet.Codec.Spec
import FleetMend.Fleet.Codec.Status

/-!
A whole fleet as JSON.

* `Fleet.toJson`, `Fleet.ofJson?`: the key, the version, the spec and the status.
-/

namespace FleetMend.Fleet

def toJson (f : Fleet) : Json :=
  .obj [("key", f.key.toJson), ("resource_version", .ofNat f.version), ("spec", f.spec.toJson),
    ("status", f.status.toJson)]

def ofJson? (j : Json) : Option Fleet := do
  let m ← j.members? ["key", "resource_version", "spec", "status"]
  some {
    key := ← m.required "key" FleetKey.ofJson?
    version := ← m.defaulted "resource_version" Json.nat64? 0
    spec := ← m.required "spec" FleetSpec.ofJson?
    status := ← m.defaulted "status" FleetStatus.ofJson? {} }

end FleetMend.Fleet
