import FleetMend.Event.Basic
import FleetMend.Fleet.Key

/-!
Telling events to whoever listens.

* `Reporter.record`: an event for all who listen by then.
* `Reporter.drain`: what a listener has not heard yet.  Only the last events are kept; a listener
  that has fallen further behind learns how many it has missed.
-/

namespace FleetMend

structure Reporter where
  /-- How many events are kept at least for those who have not heard them. -/
  capacity : Nat := 1024
  /-- The events so far, the first one first. -/
  events : List (FleetKey × Event) := []
  /-- How many of the events each listener has heard or missed; none once it has left. -/
  listeners : List (Option Nat) := []

namespace Reporter

variable (r : Reporter)

def record (key : FleetKey) (event : Event) : Reporter :=
  { r with events := r.events ++ [(key, event)] }

/-- A new listener, by its number; it hears what is recorded from now on. -/
def subscribe : Nat × Reporter :=
  (r.listeners.length, { r with listeners := r.listeners ++ [some r.events.length] })

/-- How many of the events have been let go; the number that is kept is a power of two. -/
def forgotten : Nat := r.events.length - r.capacity.nextPowerOfTwo

/-- What a listener has not heard yet, after how many it has missed. -/
def pending (heard : Nat) : Nat × List (FleetKey × Event) :=
  (r.forgotten - heard, r.events.drop (max heard r.forgotten))

def listener? (i : Nat) : Option Nat := (r.listeners[i]?).bind id

/-- A listener hears all there is to hear. -/
def drain (i : Nat) : Option (Nat × List (FleetKey × Event)) × Reporter :=
  match r.listener? i with
  | none => (none, r)
  | some heard =>
    (some (r.pending heard), { r with listeners := r.listeners.set i (some r.events.length) })

/-- A listener leaves, if it is there. -/
def leave (i : Nat) : Bool × Reporter :=
  ((r.listener? i).isSome, { r with listeners := r.listeners.set i none })

end Reporter

end FleetMend
