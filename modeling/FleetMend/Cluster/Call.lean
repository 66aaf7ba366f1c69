import FleetMend.Cycle.Error
import FleetMend.Fleet.Basic
import FleetMend.Health.Snapshot
import FleetMend.Number.Binary64
import FleetMend.Program

/-!
What the controller asks of the cluster.

* `Call`: the single calls, each with the reply that it brings.
* `Errand`: a program that makes calls, bounds some of them in time, and pauses.
-/

namespace FleetMend

/-- A claim on a volume. -/
structure VolumeClaim where
  name : String
  space : String
  capacity : Option Quantity := none
deriving BEq

/-- A call of the cluster. -/
inductive Call
  /-- The fleet as it is stored, if it is. -/
  | readFleet (key : FleetKey)
  /-- Puts another status in the place of the stored one, if the version is still the given one. -/
  | writeStatus (key : FleetKey) (version : Nat) (status : FleetStatus)
  /-- Asks the running pods for their heights. -/
  | collectStatus (fleet : Fleet)
  /-- Asks how full the volumes are. -/
  | collectUsage (fleet : Fleet)
  /-- Lists the pods, the pruning pods among them. -/
  | listPods (fleet : Fleet)
  | deletePod (pod : Pod)
  /-- The claim of the name, if there is one. -/
  | readClaim (space name : String)
  | deleteClaim (claim : VolumeClaim)

/-- What a call brings back.  A listing that fails gives its reason in words. -/
def Call.Reply : Call → Type
  | readFleet _ => Except ControlError (Option Fleet)
  | writeStatus .. => Except ControlError Fleet
  | collectStatus _ => List StatusItem
  | collectUsage _ => Except HealthError (List DiskUsage)
  | listPods _ => Except String (List Pod)
  | deletePod _ => Except ControlError Unit
  | readClaim .. => Except ControlError (Option VolumeClaim)
  | deleteClaim _ => Except ControlError Unit

/-- Something to wait for. -/
inductive Request
  | call (c : Call)
  /-- A call that is given up after so many milliseconds. -/
  | callWithin (c : Call) (millis : Nat)
  /-- So many milliseconds, and a random part of the jitter times as many. -/
  | pause (millis : Nat) (jitter : Binary64)

/-- What a request ends in; nothing where a call is given up. -/
def Request.Answer : Request → Type
  | call c => c.Reply
  | callWithin c _ => Option c.Reply
  | pause .. => Unit

/-- A program that makes requests. -/
abbrev Errand : Type → Type := Program Request Request.Answer

namespace Errand

def call (c : Call) : Errand c.Reply := .put (Request.call c)

def callWithin (c : Call) (millis : Nat) : Errand (Option c.Reply) :=
  .put (Request.callWithin c millis)

def pause (millis : Nat) (jitter : Binary64) : Errand Unit := .put (Request.pause millis jitter)

end Errand

end FleetMend
