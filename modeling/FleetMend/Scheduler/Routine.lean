import FleetMend.Cycle.Reconcile
import FleetMend.Scheduler.Signal

/-!
What the tasks of the scheduler do.

* `Orchestrator.reconcileOnce`: one cycle, after waiting for the lock of its fleet and for a permit.
* `Orchestrator.workerRound`: one cycle of a worker, and the rest until the next.
* `discoveryRound`: one look for fleets, and the wait for the next; after a shutdown, the wait for
  the workers.
-/

namespace FleetMend

/-- A question of a task of the scheduler. -/
inductive SchedulerQuery
  | cycle (q : Query)
  /-- Waits for the lock of a fleet. -/
  | lock (key : FleetKey)
  /-- Waits for a permit. -/
  | permit
  /-- Gives up the permit and the lock. -/
  | leave (key : FleetKey)
  /-- The version of the signal from which on a new receiver listens. -/
  | subscribe
  /-- Rests until the clock shows the instant, or until there is news of the signal. -/
  | rest (instant seen : Nat)
  /-- The keys of the stored fleets, in order. -/
  | listKeys
  /-- Starts a worker for each of the fleets that has none at work. -/
  | startWorkers (keys : List FleetKey)
  /-- Takes all workers off the list and waits until they have finished. -/
  | joinWorkers

/-- A rest gives the version of the news that has ended it, if any has. -/
def SchedulerQuery.Answer : SchedulerQuery → Type
  | cycle q => q.Answer
  | lock _ | permit | leave _ => Unit
  | subscribe => Nat
  | rest .. => Option Nat
  | listKeys => Except ControlError (List FleetKey)
  | startWorkers _ | joinWorkers => Unit

/-- A program of the scheduler. -/
abbrev Routine : Type → Type := Program SchedulerQuery SchedulerQuery.Answer

/-- Where a task of the scheduler has got to when a program ends. -/
inductive Stage
  /-- A worker goes on with its next round; it has seen the signal up to the version. -/
  | work (key : FleetKey) (seen : Nat)
  /-- The discovery goes on; the next look is due at the instant. -/
  | discover (interval instant seen : Nat)
  /-- A call has its outcome. -/
  | answered (outcome : Outcome)
  | finished

namespace Routine

/-- A cycle as a part of a routine. -/
def ofCycle {α : Type} : Cycle α → Routine α
  | .done a => .done a
  | .ask q next => .ask (SchedulerQuery.cycle q) fun a => ofCycle (next a)

def rest (instant seen : Nat) : Routine (Option Nat) := .put (SchedulerQuery.rest instant seen)

def subscribe : Routine Nat := .put SchedulerQuery.subscribe

end Routine

namespace Orchestrator

variable (o : Orchestrator)

/-- One cycle of a fleet, when its turn has come; the deadline counts from then on. -/
def reconcileOnce (key : FleetKey) : Routine Outcome := do
  Program.put (SchedulerQuery.lock key)
  Program.put SchedulerQuery.permit
  let outcome ← Routine.ofCycle do
    o.reconcile key ⟨(← Cycle.clock) + o.settings.cycleMillis⟩
  Program.put (SchedulerQuery.leave key)
  pure outcome

/-- A worker that has rested goes on unless a shutdown is under way. -/
def afterRest (key : FleetKey) (seen : Nat) : Option Nat → Routine Stage
  | none => pure (.work key seen)
  | some version => do
    if ← Routine.ofCycle Cycle.shuttingDown then pure .finished else pure (.work key version)

/-- One cycle of a worker and the rest after it.  A worker ends when its fleet needs no more cycles,
or at a shutdown. -/
def workerRound (key : FleetKey) (seen : Nat) : Routine Stage := do
  if ← Routine.ofCycle Cycle.shuttingDown then pure .finished
  else
    match (← o.reconcileOnce key).requeueAfter with
    | none => pure .finished
    | some millis =>
      let now ← Routine.ofCycle Cycle.clock
      afterRest key seen (← Routine.rest (now + millis) seen)

/-- A worker from its start. -/
def work (key : FleetKey) : Routine Stage := do
  o.workerRound key (← Routine.subscribe)

/-- A single call from outside. -/
def call (key : FleetKey) : Routine Stage := Stage.answered <$> o.reconcileOnce key

end Orchestrator

/-- One wait of the discovery, for its next look or for the signal.  A look that fails is made up
for by the next. -/
def discoveryRound (interval instant seen : Nat) : Routine Stage := do
  match ← Routine.rest instant seen with
  | none =>
    match ← Program.put SchedulerQuery.listKeys with
    | .ok keys => Program.put (SchedulerQuery.startWorkers keys)
    | .error _ => pure ()
    pure (.discover interval (instant + interval) seen)
  | some version =>
    if ← Routine.ofCycle Cycle.shuttingDown then
      Program.put SchedulerQuery.joinWorkers
      pure .finished
    else pure (.discover interval instant version)

/-- The discovery from its start; the first look is due at once. -/
def discover (interval : Nat) : Routine Stage := do
  let now ← Routine.ofCycle Cycle.clock
  discoveryRound interval now (← Routine.subscribe)

/-- What a task goes on with, if it goes on. -/
def Stage.next? (o : Orchestrator) : Stage → Option (Routine Stage)
  | work key seen => some (o.workerRound key seen)
  | discover interval instant seen => some (discoveryRound interval instant seen)
  | answered _ | finished => none

end FleetMend
