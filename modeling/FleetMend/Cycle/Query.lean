import FleetMend.Cluster.Call
import FleetMend.Event.Basic

/-!
What a cycle asks for, and the bounds within which it waits.

* `Cycle`: a program that waits for requests up to a limit, looks at the clock and tells the
  operator.
* `Cycle.within`: an errand whose requests are all waited for up to one limit.
* `CycleContext.bound`, `CycleContext.withinDeadline`, `CycleContext.run`: an errand within a time
  of its own or within the deadline of the cycle, whichever comes first.
-/

namespace FleetMend

/-- What ends a wait before its answer comes. -/
inductive Abort
  | limit
  | shutdown
deriving DecidableEq

/-- A question of a cycle. -/
inductive Query
  /-- Waits for a request until the clock shows the limit, or until a shutdown. -/
  | await (r : Request) (limit : Nat)
  /-- The milliseconds that the clock shows. -/
  | clock
  | wallClock
  | shuttingDown
  | announce (key : FleetKey) (event : Event)

def Query.Answer : Query → Type
  | await r _ => Except Abort r.Answer
  | clock => Nat
  | wallClock => Time
  | shuttingDown => Bool
  | announce .. => Unit

/-- A program of a cycle. -/
abbrev Cycle : Type → Type := Program Query Query.Answer

namespace Cycle

def clock : Cycle Nat := .put Query.clock

def wallClock : Cycle Time := .put Query.wallClock

def shuttingDown : Cycle Bool := .put Query.shuttingDown

def announce (key : FleetKey) (event : Event) : Cycle Unit := .put (Query.announce key event)

/-- Tells the events, in order. -/
def announceAll (key : FleetKey) (events : List Event) : Cycle Unit := events.forM (announce key)

variable {α : Type}

/-- Runs an errand and waits for each of its requests up to the limit. -/
def within (limit : Nat) : Errand α → Cycle (Except Abort α)
  | .done a => .done (.ok a)
  | .ask r next => .ask (Query.await r limit) fun
    | .ok a => within limit (next a)
    | .error e => .done (.error e)

/-- Runs an errand from `now` up to the limit; the reason names the operation where there is no
result. -/
def race (operation : String) (now limit : Nat) (errand : Errand α) :
    Cycle (Except ControlError α) := do
  match ← within limit errand with
  | .ok a => pure (.ok a)
  | .error .limit => pure (.error (.timedOut operation (limit - now)))
  | .error .shutdown => pure (.error (.cancelled operation))

end Cycle

/-- What bounds a cycle. -/
structure CycleContext where
  /-- What the clock shows when the cycle has to be over. -/
  deadline : Nat
deriving DecidableEq, Inhabited

namespace CycleContext

variable {α : Type}

/-- Runs an errand for so many milliseconds at most, and no longer than the cycle. -/
def bound (c : CycleContext) (operation : String) (millis : Nat) (errand : Errand α) :
    Cycle (Except ControlError α) := do
  let now ← Cycle.clock
  Cycle.race operation now (min (now + millis) c.deadline) errand

/-- Runs an errand no longer than the cycle. -/
def withinDeadline (c : CycleContext) (operation : String) (errand : Errand α) :
    Cycle (Except ControlError α) := do
  Cycle.race operation (← Cycle.clock) c.deadline errand

/-- Runs an errand that may fail, within its bounds. -/
def run (c : CycleContext) (operation : String) (millis : Nat)
    (errand : Errand (Except ControlError α)) : Cycle (Except ControlError α) :=
  (·.bind id) <$> c.bound operation millis errand

/-- A shutdown is under way, or the deadline has come. -/
def isCancelled (c : CycleContext) : Cycle Bool := do
  let stopping ← Cycle.shuttingDown
  return stopping || c.deadline ≤ (← Cycle.clock)

end CycleContext

end FleetMend
