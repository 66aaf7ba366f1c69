import FleetMend.Fleet.Spec
import FleetMend.Fleet.Status

/-!
Counting the failures of a pod within a window that slides along.

* `Tracker.record`: one more failure, and whether the count has reached the threshold.
  `Tracker.log_of_exceeded`: where it has, the log is emptied.
-/

namespace FleetMend

/-- How far back failures count, and how many of them are too many. -/
structure Tracker where
  window : Span
  threshold : UInt32
deriving DecidableEq, Inhabited

def Tracker.ofSpec (s : RegenerateSpec) : Tracker := ⟨s.window, s.threshold⟩

/-- The failure at `t` still counts at `now`: it is not older than the window, or lies ahead. -/
def Tracker.counts (k : Tracker) (now t : Time) : Bool :=
  match now.since? t with
  | some age => age ≤ k.window
  | none => true

/-- Notes a failure at `now` and drops those that no longer count.  Where as many as the threshold
are left, the log is emptied and the regeneration begins; the first failure in an empty log starts
over. -/
def Tracker.record (k : Tracker) (log : FailureLog) (now : Time) : FailureLog × Bool :=
  let phase := if log.times.isEmpty then .notYet else log.phase
  let times := log.times.filter (k.counts now) ++ [now]
  if k.threshold.toNat ≤ times.length then (⟨[], .regenerating⟩, true) else (⟨times, phase⟩, false)

/-- One failure too many empties the log and begins the regeneration. -/
theorem Tracker.log_of_exceeded {k : Tracker} {log : FailureLog} {now : Time}
    (exceeded : (k.record log now).2 = true) : (k.record log now).1 = ⟨[], .regenerating⟩ := by
  unfold record at exceeded ⊢
  dsimp only at exceeded ⊢
  split at exceeded
  · next reached => rw [if_pos reached]
  · cases exceeded

end FleetMend
