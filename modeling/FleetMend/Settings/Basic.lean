import FleetMend.Number.Binary64
import FleetMend.Pruning.Step
import FleetMend.Time.Basic

/-!
What can be set about the controller.

* `Settings`: the settings, with what holds where nothing is set.
* `Settings.retry`, `Settings.pruningTiming`: the settings as the cycles use them.
-/

namespace FleetMend

/-- The waiting times of pruning, in seconds. -/
structure PruningSettings where
  retryDelay : Nat := 10
  pollDelay : Nat := 30
  candidateTimeout : Nat := 10
deriving DecidableEq, Inhabited

structure DriftSettings where
  /-- The seconds for which a pod has to be ready before it counts. -/
  minReady : Nat := 5
deriving DecidableEq, Inhabited

/-- How often the write of a status is tried, and how long to wait in between. -/
structure PersistSettings where
  maxAttempts : UInt32 := 5
  /-- Milliseconds. -/
  backoff : Nat := 10
  /-- The random part of a wait, as a part of the backoff. -/
  jitter : Binary64 := .ofSize false 1 10
deriving DecidableEq

structure Settings where
  /-- The seconds between two cycles of a fleet. -/
  requeueAfter : Nat := 60
  /-- The seconds that a single call may take. -/
  ioTimeout : Nat := 10
  /-- The seconds that a cycle may take. -/
  cycleTimeout : Nat := 50
  /-- The cycles that may run at once. -/
  maxConcurrent : Nat := 10
  pruning : PruningSettings := {}
  drift : DriftSettings := {}
  persist : PersistSettings := {}
deriving DecidableEq

/-- How a write that meets a conflict is tried again. -/
structure RetryPolicy where
  /-- The attempts in all; the first is made in any case. -/
  attempts : UInt32
  /-- The milliseconds before the next attempt, and the random part over them. -/
  backoff : Nat
  jitter : Binary64

namespace Settings

/-- Seconds in milliseconds. -/
def millis (secs : Nat) : Nat := secs * 1000

def requeueMillis (s : Settings) : Nat := millis s.requeueAfter

def ioMillis (s : Settings) : Nat := millis s.ioTimeout

def cycleMillis (s : Settings) : Nat := millis s.cycleTimeout

def minReady (s : Settings) : Span := .ofSecs s.drift.minReady

def retry (s : Settings) : RetryPolicy :=
  ⟨s.persist.maxAttempts, s.persist.backoff, s.persist.jitter⟩

def pruningTiming (s : Settings) : PruningTiming where
  retryDelay := millis s.pruning.retryDelay
  pollDelay := millis s.pruning.pollDelay
  candidateTimeout := millis s.pruning.candidateTimeout
  ioTimeout := s.ioMillis

/-- The cycles that may run at once; one in any case. -/
def parallelism (s : Settings) : Nat := max 1 s.maxConcurrent

end Settings

end FleetMend
