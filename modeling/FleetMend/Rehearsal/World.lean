import FleetMend.Cluster.Call
import FleetMend.Event.Basic
import FleetMend.Patch
import FleetMend.Store

/-!
A scripted world in which the controller is rehearsed.

* `World`: what the cluster shows, what fails, how long each call takes, and what has been recorded.
* `World.reply`: what a call brings back, and what it changes.
-/

namespace FleetMend

/-- The kinds of calls, as far as a world tells them apart. -/
inductive CallKind
  | readFleet
  | writeStatus
  | collectStatus
  | collectUsage
  | listPods
  | deletePod
  | readClaim
  | deleteClaim
deriving DecidableEq

def Call.kind : Call → CallKind
  | .readFleet _ => .readFleet
  | .writeStatus .. => .writeStatus
  | .collectStatus _ => .collectStatus
  | .collectUsage _ => .collectUsage
  | .listPods _ => .listPods
  | .deletePod _ => .deletePod
  | .readClaim .. => .readClaim
  | .deleteClaim _ => .deleteClaim

/-- Why a scripted call fails. -/
inductive Fault
  | missing
  | gateway (reason : String)

/-- The failure, for an object of the kind and the name. -/
def Fault.error (f : Fault) (kind name : String) : ControlError :=
  match f with
  | missing => .notFound kind name
  | gateway reason => .gateway reason

/-- The calls that fail, and why. -/
structure Faults where
  readFleet : Option Fault := none
  writeStatus : Option Fault := none
  listKeys : Option Fault := none
  usage : Option HealthError := none
  /-- The reason in words, by fleet. -/
  listing : Option (FleetKey → String) := none
  /-- By pod. -/
  deletePod : SortedMap String Fault := ∅
  /-- By claim. -/
  readClaim : SortedMap String Fault := ∅
  /-- By claim. -/
  deleteClaim : SortedMap String Fault := ∅

/-- A look at a fleet that has come to its end: when, and of what kind. -/
structure Look where
  fleet : FleetKey
  time : Nat
  kind : CallKind

/-- What has been recorded. -/
structure Journal where
  deletedPods : List String := []
  deletedClaims : List String := []
  looks : List Look := []
  events : List (FleetKey × Event) := []
  /-- The usage calls under way, and the most there have been. -/
  usageNow : Nat := 0
  usagePeak : Nat := 0

structure World where
  store : Store := ∅
  pods : List Pod := []
  items : List StatusItem := []
  usage : List DiskUsage := []
  /-- The claims that exist, by name. -/
  claims : List String := []
  faults : Faults := {}
  /-- The milliseconds that a call takes; none where it is not named. -/
  delays : List (CallKind × Nat) := []
  /-- The writes of a status that a competitor will get ahead of. -/
  races : Nat := 0
  /-- What the competitor changes; one more replica where it is nothing. -/
  raceOps : Patch := []
  /-- Every fleet vanishes just before its status is written. -/
  vanish : Bool := false
  journal : Journal := {}

namespace World

variable (w : World)

def delay (c : Call) : Nat := (w.delays.lookup c.kind).getD 0

def record (f : Journal → Journal) : World := { w with journal := f w.journal }

/-- Records the end of a look at a fleet. -/
def look (f : Fleet) (time : Nat) (kind : CallKind) : World :=
  w.record fun j => { j with looks := j.looks ++ [⟨f.key, time, kind⟩] }

def announce (key : FleetKey) (event : Event) : World :=
  w.record fun j => { j with events := j.events ++ [(key, event)] }

/-! ### Writing a status -/

/-- The fleet is gone before the write, where fleets vanish. -/
def afterVanishing (key : FleetKey) : World :=
  if w.vanish then { w with store := (w.store.remove key).2 } else w

/-- What a competitor writes. -/
def compete (f : Fleet) : Store :=
  if w.raceOps.isEmpty then
    (w.store.updateSpec f.key { f.spec with replicas := f.spec.replicas + 1 }).2
  else (w.store.updateStatus f.key f.version (Patch.apply w.raceOps f.status)).2

/-- A competitor gets ahead, as often as the script says. -/
def afterRace (key : FleetKey) : World :=
  if w.races = 0 then w
  else
    let w := { w with races := w.races - 1 }
    match w.store.find? key with
    | none => w
    | some f => { w with store := w.compete f }

def writeStatus (key : FleetKey) (version : Nat) (status : FleetStatus) :
    Except ControlError Fleet × World :=
  let w := (w.afterVanishing key).afterRace key
  let (r, store) := w.store.updateStatus key version status
  (r, { w with store })

/-! ### Replies -/

/-- The failure where there is one, and the reply otherwise. -/
def orFault {α : Type} (fault : Option ControlError) (reply : World → α × World) :
    Except ControlError α × World :=
  match fault with
  | some e => (.error e, w)
  | none => let (a, w) := reply w; (.ok a, w)

def listFailure? (f : Fleet) : Option String := w.faults.listing.map (· f.key)

/-- What a call brings back that comes to its end at the given time, and the world after it. -/
def reply (time : Nat) : (c : Call) → c.Reply × World
  | .readFleet key =>
    w.orFault (w.faults.readFleet.map (·.error "resource" key.text)) fun w => (w.store.find? key, w)
  | .writeStatus key version status =>
    match w.faults.writeStatus with
    | some fault => (.error (fault.error "resource" key.text), w)
    | none => w.writeStatus key version status
  | .collectStatus f => (w.items, w.look f time .collectStatus)
  | .collectUsage f =>
    let w := w.look f time .collectUsage
    match w.faults.usage with
    | some e => (.error e, w)
    | none => (.ok w.usage, w)
  | .listPods f =>
    let w := w.look f time .listPods
    match w.listFailure? f with
    | some reason => (.error reason, w)
    | none => (.ok w.pods, w)
  | .deletePod pod =>
    w.orFault ((w.faults.deletePod.find? pod.name).map (·.error "pod" pod.name)) fun w =>
      let w := w.record fun j => { j with deletedPods := j.deletedPods ++ [pod.name] }
      ((), { w with pods := w.pods.filter fun p => p.name != pod.name })
  | .readClaim space name =>
    w.orFault ((w.faults.readClaim.find? name).map (·.error "pvc" name)) fun w =>
      (if w.claims.contains name then some { name, space } else none, w)
  | .deleteClaim claim =>
    w.orFault ((w.faults.deleteClaim.find? claim.name).map (·.error "pvc" claim.name)) fun w =>
      let gone := claim.space ++ "/" ++ claim.name
      let w := w.record fun j => { j with deletedClaims := j.deletedClaims ++ [gone] }
      ((), { w with claims := w.claims.filter (· != claim.name) })

/-! ### Beginnings and ends -/

/-- A call begins. -/
def begin (c : Call) : World :=
  if c.kind = .collectUsage then
    w.record fun j =>
      { j with usageNow := j.usageNow + 1, usagePeak := max j.usagePeak (j.usageNow + 1) }
  else w

/-- A call has come to its end, or is given up. -/
def finish (c : Call) : World :=
  if c.kind = .collectUsage then w.record fun j => { j with usageNow := j.usageNow - 1 } else w

end World

end FleetMend
