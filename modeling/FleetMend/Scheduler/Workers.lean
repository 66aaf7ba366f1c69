import FleetMend.Data.SortedMap
import FleetMend.Fleet.Key

/-!
The workers of the fleets.

* `Workers.start?`: a worker for a fleet, unless the last one is still at work.
* `Workers.active`: how many are at work.
-/

namespace FleetMend

/-- The last worker of each fleet by its number, and the workers that have finished. -/
structure Workers where
  current : SortedMap FleetKey Nat := ∅
  finished : List Nat := []

namespace Workers

variable (w : Workers)

def isFinished (worker : Nat) : Bool := w.finished.contains worker

/-- The worker of a fleet that is still at work. -/
def atWork? (key : FleetKey) : Option Nat := (w.current.find? key).filter fun n => !w.isFinished n

/-- The worker of the given number takes on a fleet, unless another is still at work on it. -/
def start? (key : FleetKey) (worker : Nat) : Option Workers :=
  if (w.atWork? key).isSome then none else some { w with current := w.current.insert key worker }

def finish (worker : Nat) : Workers := { w with finished := worker :: w.finished }

/-- How many of the workers are at work. -/
def active : Nat := (w.current.values.filter fun n => !w.isFinished n).length

/-- Takes all workers off the list, so that their end can be waited for. -/
def release : List Nat × Workers := (w.current.values, { w with current := ∅ })

/-- All of the workers have finished. -/
def areFinished (workers : List Nat) : Bool := workers.all w.isFinished

end Workers

end FleetMend
