import FleetMend.Fleet.Key
import FleetMend.Fleet.Pod
import FleetMend.Json.Value
import FleetMend.Quantity.Printer
import FleetMend.Quantity.Reader
import FleetMend.Time.Rfc3339

/-!
Keys, pods and volume claims as JSON, and the scalars of time and size that all codecs share.

* `Time.toJson`, `Span.toJson`, `Quantity.toJson`: RFC 3339 text, whole milliseconds, and the size's
  text.
* `FleetKey.ofJson?`, `Pod.ofJson?`: each record by its names, a pod's containers left out for none.
-/

namespace FleetMend

/-! ### Scalars -/

def Time.toJson (t : Time) : Json := .str t.text

def Time.ofJson? (j : Json) : Option Time := j.str?.bind Time.read?

/-- The whole milliseconds. -/
def Span.toJson (s : Span) : Json := .ofNat s.millis

def Span.ofJson? (j : Json) : Option Span := j.nat64?.map .ofMillis

def Quantity.toJson (q : Quantity) : Json := .str q.text

def Quantity.ofJson? (j : Json) : Option Quantity := j.str?.bind Quantity.read?

def Json.ofUInt32 (n : UInt32) : Json := .ofNat n.toNat

def Json.ofUInt64 (n : UInt64) : Json := .ofNat n.toNat

/-! ### Keys -/

def FleetKey.toJson (k : FleetKey) : Json :=
  .obj [("namespace", .str k.space), ("name", .str k.name)]

def FleetKey.ofJson? (j : Json) : Option FleetKey := do
  let m ← j.members? ["namespace", "name"]
  some {
    space := ← m.required "namespace" Json.str?
    name := ← m.required "name" Json.str? }

/-! ### Pods -/

namespace ContainerState

def toJson : ContainerState → Json
  | waiting reason => .obj [("Waiting", .obj [("reason", .ofOption .str reason)])]
  | running startedAt => .obj [("Running", .obj [("started_at", startedAt.toJson)])]
  | terminated exitCode => .obj [("Terminated", .obj [("exit_code", .int exitCode.toInt)])]

def ofJson? (j : Json) : Option ContainerState :=
  match j.choice? with
  | some ("Waiting", some (.obj fields)) => do
    let m ← (Json.obj fields).members? []
    some (waiting (← m.optional "reason" Json.str?))
  | some ("Running", some (.obj fields)) => do
    let m ← (Json.obj fields).members? []
    some (running (← m.required "started_at" Time.ofJson?))
  | some ("Terminated", some (.obj fields)) => do
    let m ← (Json.obj fields).members? []
    some (terminated (← m.required "exit_code" Json.int32?))
  | _ => none

end ContainerState

namespace Container

def toJson (c : Container) : Json := .obj [("name", .str c.name), ("state", c.state.toJson)]

def ofJson? (j : Json) : Option Container := do
  let m ← j.members? ["name", "state"]
  some {
    name := ← m.required "name" Json.str?
    state := ← m.required "state" ContainerState.ofJson? }

end Container

namespace Pod

def toJson (p : Pod) : Json :=
  .obj [("name", .str p.name), ("namespace", .str p.space), ("ordinal", .ofUInt32 p.ordinal),
    ("volume_claim", .str p.claim), ("ready_since", .ofOption Time.toJson p.readySince),
    ("containers", .ofList Container.toJson p.containers)]

def ofJson? (j : Json) : Option Pod := do
  let m ← j.members? ["name", "namespace", "ordinal", "volume_claim", "ready_since", "containers"]
  some {
    name := ← m.required "name" Json.str?
    space := ← m.required "namespace" Json.str?
    ordinal := ← m.required "ordinal" Json.uint32?
    claim := ← m.required "volume_claim" Json.str?
    readySince := ← m.optional "ready_since" Time.ofJson?
    containers := ← m.defaulted "containers" (Json.list? Container.ofJson?) [] }

end Pod

end FleetMend
