import FleetMend.Proofs.Health.Triggers
import FleetMend.Proofs.Health.Window

/-!
What holds of a log of failures however they were recorded: with any windows and thresholds, that
may change from one failure to the next, and at any times, that may step back.

* `FailureLog.Settled`: a log that is marked for regeneration is empty.
* `FailureLog.Counting`: what a failure leaves that was not one too many.
* `FailureLog.Settled.counting`: it does so where the log was settled before.
* `FailureLog.emptied_or_counting`: so do all failures of a run, and every log is settled.
* `Patch.settled_failureLog`: a patch keeps all logs of a status settled.
-/

namespace FleetMend

variable {k : Tracker} {log : FailureLog} {now : Time}

/-- A failure that is not one too many starts an empty log over, and leaves the mark of another. -/
theorem Tracker.phase_of_not_exceeded (h : (k.record log now).2 = false) :
    (k.record log now).1.phase = if log.times.isEmpty then .notYet else log.phase := by
  unfold record at h ⊢
  dsimp only at h ⊢
  split at h
  · cases h
  · next few => rw [if_neg few]

namespace FailureLog

/-- A log that is marked for regeneration is empty. -/
def Settled (log : FailureLog) : Prop := log.phase = .regenerating → log.times = []

/-- What holds of a log after a failure at `now` that was not one too many for the tracker. -/
structure Counting (log : FailureLog) (k : Tracker) (now : Time) : Prop where
  last : log.times.getLast? = some now
  few : log.times.length < k.threshold.toNat
  /-- Where a time lies ahead, less than nothing has passed since. -/
  recent : ∀ t ∈ log.times, now.elapsed t ≤ k.window.nanos
  phase : log.phase = .notYet

/-- The log after failures, in order, each with the tracker that it was recorded with. -/
def recorded (calls : List (Tracker × Time)) : FailureLog :=
  calls.foldl (fun log call => (call.1.record log call.2).1) {}

theorem recorded_concat (past : List (Tracker × Time)) (k : Tracker) (now : Time) :
    recorded (past ++ [(k, now)]) = (k.record (recorded past) now).1 := by
  simp [recorded]

/-! ### One failure -/

namespace Settled

/-- A mark is gone once a failure starts over: a settled log that holds any is not marked. -/
theorem restarted (h : log.Settled) :
    (if log.times.isEmpty then RegenPhase.notYet else log.phase) = .notYet := by
  split
  · rfl
  · next some =>
    cases marked : log.phase with
    | notYet => rfl
    | regenerating => exact absurd (List.isEmpty_iff.2 (h marked)) some

theorem counting (h : log.Settled) (told : (k.record log now).2 = false) :
    (k.record log now).1.Counting k now := by
  obtain ⟨reached, logged⟩ := k.record_eq log now
  have times : (k.record log now).1.times = k.recent now (log.times ++ [now]) := by
    rw [logged, told]
    rfl
  constructor
  · rw [times, Tracker.recent_append, Tracker.recent_self, List.getLast?_concat]
  · rw [times]
    exact Nat.lt_of_not_le fun many => Bool.false_ne_true (told.symm.trans (reached.2 many))
  · intro t ht
    rw [times] at ht
    exact of_decide_eq_true (List.mem_filter.1 ht).2
  · rw [Tracker.phase_of_not_exceeded told, h.restarted]

/-- A failure keeps a log settled, whatever it is recorded with, and when. -/
theorem record (h : log.Settled) : (k.record log now).1.Settled := by
  intro marked
  cases told : (k.record log now).2 with
  | true => rw [Tracker.log_of_exceeded told]
  | false => cases marked.symm.trans (h.counting told).phase

end Settled

/-! ### All failures -/

theorem settled_recorded (calls : List (Tracker × Time)) : (recorded calls).Settled := by
  induction calls using List.reverseRecOn with
  | nil => exact fun _ => rfl
  | append_singleton past call ih =>
    rw [recorded_concat]
    exact ih.record

/-- **Emptied or counting.**  A failure that is one too many empties the log and marks it.  Any
other stands last in the log, which then holds fewer failures than the threshold it was recorded
with and none from before the window, and is not marked.  So a log that is marked is empty, whatever
failures have been recorded. -/
theorem emptied_or_counting :
    (∀ (past : List (Tracker × Time)) (k : Tracker) (now : Time),
      ((k.record (recorded past) now).2 = true →
        recorded (past ++ [(k, now)]) = ⟨[], .regenerating⟩) ∧
      ((k.record (recorded past) now).2 = false →
        (recorded (past ++ [(k, now)])).Counting k now)) ∧
    ∀ calls : List (Tracker × Time), (recorded calls).Settled := by
  refine ⟨fun past k now => ?_, settled_recorded⟩
  rw [recorded_concat]
  exact ⟨Tracker.log_of_exceeded, (settled_recorded past).counting⟩

/-! ### A clock that is set back

The second failure is recorded at an earlier time than the first, and the third between the two,
with another window. -/

namespace SetBack

def after (secs : Nat) : Time := ⟨secs * 1000000000, false⟩

def past : List (Tracker × Time) := [(⟨.ofSecs 60, 3⟩, after 100), (⟨.ofSecs 60, 3⟩, after 90)]

end SetBack

open SetBack in
/-- With a threshold of four the third failure counts with both others, the one that lies ahead and
the one just before; with a threshold of three it is one too many. -/
theorem emptied_or_counting_setBack :
    ((⟨.ofSecs 5, 4⟩ : Tracker).record (recorded past) (after 95)).2 = false ∧
      (recorded (past ++ [(⟨.ofSecs 5, 4⟩, after 95)])).Counting ⟨.ofSecs 5, 4⟩ (after 95) ∧
      (recorded (past ++ [(⟨.ofSecs 5, 4⟩, after 95)])).times = [after 100, after 90, after 95] ∧
      ((⟨.ofSecs 5, 3⟩ : Tracker).record (recorded past) (after 95)).2 = true ∧
      recorded (past ++ [(⟨.ofSecs 5, 3⟩, after 95)]) = ⟨[], .regenerating⟩ ∧
      (recorded (past ++ [(⟨.ofSecs 5, 3⟩, after 95)])).Settled := by
  obtain ⟨calls, settled⟩ := emptied_or_counting
  have counts : ((⟨.ofSecs 5, 4⟩ : Tracker).record (recorded past) (after 95)).2 = false := by
    decide
  have exceeds : ((⟨.ofSecs 5, 3⟩ : Tracker).record (recorded past) (after 95)).2 = true := by
    decide
  exact ⟨counts, (calls _ _ _).2 counts, by decide, exceeds, (calls _ _ _).1 exceeds, settled _⟩

end FailureLog

/-! ### The logs of a status -/

variable {s : FleetStatus} {op : StatusOp} {p : Patch}

theorem StatusOp.settled_failureLog (h : ∀ pod, (s.failureLog pod).Settled) (pod : String) :
    ((op.apply s).1.failureLog pod).Settled := by
  cases op with
  | recordFailure failed time tracker =>
    rw [failureLog_recordFailure]
    split
    · exact (h failed).record
    · exact h pod
  | setSyncInfo | requestResize | setPhase | addCandidate | clearSubstitution | clearCandidates =>
    exact h pod

/-- A patch keeps the logs of a status settled, whatever it records and for which pods. -/
theorem Patch.settled_failureLog (h : ∀ pod, (s.failureLog pod).Settled) (pod : String) :
    ((p.apply s).failureLog pod).Settled := by
  induction p generalizing s with
  | nil => exact h pod
  | cons op p ih =>
    rw [apply_cons]
    exact ih (StatusOp.settled_failureLog h)

end FleetMend
