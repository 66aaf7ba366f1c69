import FleetMend.Health.FailureWindow
import Mathlib.Data.List.DropRight

/-!
The failures that count, over a whole run of failures.

* `Time.Steady`: of the times of a list, the time that has passed since one of them does not shrink
  from a later one to the next.  It may only where a leap second is among them.
* `Tracker.recordAll`: failures recorded one after the other, each with the answer.
* `Tracker.record_exact`: the answer to a failure, and the log after it, are those of all failures
  since the last one that was one too many: nothing dropped earlier would count now.
* `Tracker.dropped_over_leapSecond`: over a leap second something may be dropped too early.
-/

namespace FleetMend

/-! ### Times in order -/

namespace Time

/-- The second that a point lies in; a leap second is one with the second before it. -/
def second (t : Time) : Int := t.ordinaryNanos / 1000000000

/-- The order of seconds, and within a second that of the nanoseconds that have run. -/
instance : LE Time :=
  ⟨fun a b => a.second < b.second ∨ a.second = b.second ∧ a.nanos ≤ b.nanos⟩

theorem le_def {a b : Time} :
    a ≤ b ↔ a.second < b.second ∨ a.second = b.second ∧ a.nanos ≤ b.nanos := Iff.rfl

instance (a b : Time) : Decidable (a ≤ b) := decidable_of_iff _ le_def.symm

/-- Outside of leap seconds the order is that of the nanoseconds. -/
theorem le_iff_of_ordinary {a b : Time} (ha : a.inLeapSecond = false)
    (hb : b.inLeapSecond = false) : a ≤ b ↔ a.nanos ≤ b.nanos := by
  simp only [le_def, second, ordinaryNanos, ha, hb, Bool.false_eq_true, if_false]
  omega

/-- The time that has passed since a point does not shrink from a later point to the next. -/
def Steady (times : List Time) : Prop :=
  ∀ a b c : Time, [a, b, c].Sublist times → b.elapsed a ≤ c.elapsed a

theorem Steady.sublist {times more : List Time} (h : Steady more) (part : times.Sublist more) :
    Steady times :=
  fun a b c hs => h a b c (hs.trans part)

/-- Times in order are steady, as long as none lies in a leap second. -/
theorem steady_of_ordinary {times : List Time} (sorted : times.Pairwise (· ≤ ·))
    (ordinary : ∀ t ∈ times, t.inLeapSecond = false) : Steady times := by
  intro a b c part
  have ha := ordinary a (part.subset (by simp))
  have hb := ordinary b (part.subset (by simp))
  have hc := ordinary c (part.subset (by simp))
  have bc : b ≤ c :=
    (List.pairwise_cons.1 (List.pairwise_cons.1 (sorted.sublist part)).2).1 c List.mem_cons_self
  rw [le_iff_of_ordinary hb hc] at bc
  rw [elapsed_of_ordinary hb ha, elapsed_of_ordinary hc ha]
  omega

end Time

/-! ### A run of failures -/

namespace Tracker

/-- The log after the failures of a list, in order, and each failure with the answer: whether it was
one too many. -/
def recordAll (k : Tracker) (times : List Time) : FailureLog × List (Time × Bool) :=
  times.foldl (fun s t => ((k.record s.1 t).1, s.2 ++ [(t, (k.record s.1 t).2)])) ({}, [])

/-- The failures since the last one that was one too many, or all where none was. -/
def sinceExceeded (calls : List (Time × Bool)) : List Time :=
  (calls.rtakeWhile fun call => !call.2).map (·.1)

/-- The times that lie the window before `now` at most. -/
def recent (k : Tracker) (now : Time) (times : List Time) : List Time :=
  times.filter fun t => now.elapsed t ≤ k.window.nanos

variable {k : Tracker} {past times : List Time} {now t : Time}

theorem counts_eq (k : Tracker) (now t : Time) :
    k.counts now t = decide (now.elapsed t ≤ k.window.nanos) := by
  unfold counts Time.since?
  by_cases passed : 0 ≤ now.elapsed t
  · simp only [if_pos passed, Span.le_def]
    exact decide_eq_decide.2 (by omega)
  · simp only [if_neg passed]
    exact (decide_eq_true (by omega)).symm

theorem recent_append (times more : List Time) :
    k.recent now (times ++ more) = k.recent now times ++ k.recent now more :=
  List.filter_append ..

/-- A failure counts when it is recorded. -/
theorem recent_self : k.recent now [now] = [now] := by
  simp [recent]

/-- What was dropped at an earlier point would not count at a later one. -/
theorem recent_recent (earlier : ∀ a ∈ times, t.elapsed a ≤ now.elapsed a) :
    k.recent now (k.recent t times) = k.recent now times := by
  simp only [recent, List.filter_filter]
  refine List.filter_congr fun a ha => Bool.and_eq_left_iff_imp.2 fun counts => ?_
  have passed := earlier a ha
  have within := of_decide_eq_true counts
  exact decide_eq_true (by omega)

/-- The answer to a failure, and the log after it, by those that are logged and count. -/
theorem record_eq (k : Tracker) (log : FailureLog) (now : Time) :
    ((k.record log now).2 = true ↔
        k.threshold.toNat ≤ (k.recent now (log.times ++ [now])).length) ∧
      (k.record log now).1.times =
        if (k.record log now).2 then [] else k.recent now (log.times ++ [now]) := by
  have same : log.times.filter (k.counts now) ++ [now] = k.recent now (log.times ++ [now]) := by
    rw [recent_append, recent_self, recent]
    simp only [funext (counts_eq k now)]
  unfold record
  rw [← same]
  dsimp only
  split <;> simp_all

theorem recordAll_concat (past : List Time) (t : Time) :
    k.recordAll (past ++ [t]) =
      ((k.record (k.recordAll past).1 t).1,
        (k.recordAll past).2 ++ [(t, (k.record (k.recordAll past).1 t).2)]) := by
  simp [recordAll]

theorem sinceExceeded_concat (calls : List (Time × Bool)) (told : Bool) :
    sinceExceeded (calls ++ [(t, told)]) = if told then [] else sinceExceeded calls ++ [t] := by
  cases told <;> simp [sinceExceeded]

theorem map_recordAll (k : Tracker) (past : List Time) : (k.recordAll past).2.map (·.1) = past := by
  induction past using List.reverseRecOn with
  | nil => rfl
  | append_singleton past t ih => simp [recordAll_concat, ih]

theorem mem_of_mem_sinceExceeded (h : t ∈ sinceExceeded (k.recordAll past).2) : t ∈ past := by
  obtain ⟨call, hc, rfl⟩ := List.mem_map.1 h
  rw [← map_recordAll k past]
  exact List.mem_map_of_mem ((List.rtakeWhile_suffix _ _).subset hc)

/-- Of the failures that are logged, those count that count of all since the last one that was one
too many. -/
theorem recent_recordAll (steady : Time.Steady (past ++ [now])) :
    k.recent now (k.recordAll past).1.times =
      k.recent now (sinceExceeded (k.recordAll past).2) := by
  induction past using List.reverseRecOn generalizing now with
  | nil => rfl
  | append_singleton past t ih =>
    have before := ih (steady.sublist (List.sublist_append_left _ _))
    have logged := (record_eq k (k.recordAll past).1 t).2
    rw [recordAll_concat, logged, sinceExceeded_concat]
    cases (k.record (k.recordAll past).1 t).2 with
    | true => rfl
    | false =>
      have earlier : ∀ a ∈ sinceExceeded (k.recordAll past).2, t.elapsed a ≤ now.elapsed a := by
        intro a ha
        refine steady a t now ?_
        have one := List.singleton_sublist.2 (mem_of_mem_sinceExceeded ha)
        simpa using one.append (List.Sublist.refl [t, now])
      simp only [Bool.false_eq_true, if_false]
      rw [recent_append, recent_append, recent_append, before, recent_self,
        recent_recent earlier]

/-- **The window.**  The answer to a failure, and the log after it, are those of all failures since
the last one that was one too many: it is one too many where as many as the threshold lie within the
window, and otherwise these are logged.  The times are in order; where leap seconds are among them
they are steady besides. -/
theorem record_exact (k : Tracker) {past : List Time} {now : Time}
    (sorted : (past ++ [now]).Pairwise (· ≤ ·))
    (steady : (∃ t ∈ past ++ [now], t.inLeapSecond = true) → Time.Steady (past ++ [now])) :
    let log := (k.recordAll past).1
    let counted := k.recent now (sinceExceeded (k.recordAll past).2 ++ [now])
    ((k.record log now).2 = true ↔ k.threshold.toNat ≤ counted.length) ∧
      ((k.record log now).2 = false → (k.record log now).1.times = counted) := by
  have level : Time.Steady (past ++ [now]) := by
    by_cases leap : ∃ t ∈ past ++ [now], t.inLeapSecond = true
    · exact steady leap
    · refine Time.steady_of_ordinary sorted fun t ht => ?_
      exact Bool.eq_false_iff.2 fun h => leap ⟨t, ht, h⟩
  obtain ⟨told, logged⟩ := record_eq k (k.recordAll past).1 now
  rw [recent_append, recent_recordAll level, ← recent_append] at told logged
  refine ⟨told, fun h => ?_⟩
  rw [logged, h]
  rfl

/-! ### A leap second

A failure falls into the leap second between two others.  Until then it counts as a second that
passes; to the second after it, it is one with the second before. -/

namespace Leap

def before : Time := ⟨59000000000, false⟩

def within : Time := ⟨60500000000, true⟩

/-- The point some milliseconds into the second after the leap second. -/
def after (millis : Nat) : Time := ⟨60000000000 + millis * 1000000, false⟩

theorem steady : Time.Steady ([before, within] ++ [after 1000]) := by
  intro a b c part
  obtain ⟨rfl, rfl, rfl⟩ : a = before ∧ b = within ∧ c = after 1000 := by
    simpa using part.eq_of_length rfl
  decide

end Leap

open Leap in
/-- A second after the leap second the first failure no longer counts, the second does. -/
theorem record_exact_after :
    let k : Tracker := ⟨.ofMillis 1500, 3⟩
    let log := (k.recordAll [before, within]).1
    ([before, within] ++ [after 1000]).Pairwise (· ≤ ·) ∧
      Time.Steady ([before, within] ++ [after 1000]) ∧
      k.recent (after 1000) (sinceExceeded (k.recordAll [before, within]).2 ++ [after 1000]) =
        [within, after 1000] ∧
      (k.record log (after 1000)).2 = false ∧
      (k.record log (after 1000)).1.times = [within, after 1000] := by
  intro k log
  have sorted : ([before, within] ++ [after 1000]).Pairwise (· ≤ ·) := by decide
  exact ⟨sorted, steady, by decide, by decide,
    ((record_exact k sorted fun _ => steady).2 (by decide)).trans (by decide)⟩

open Leap in
/-- **Over a leap second.**  Before the leap second is over more time may seem to have passed than
after it.  So a failure may be dropped that would count again. -/
theorem dropped_over_leapSecond :
    ¬∀ (k : Tracker) (past : List Time) (now : Time), (past ++ [now]).Pairwise (· ≤ ·) →
      let log := (k.recordAll past).1
      let counted := k.recent now (sinceExceeded (k.recordAll past).2 ++ [now])
      ((k.record log now).2 = true ↔ k.threshold.toNat ≤ counted.length) ∧
        ((k.record log now).2 = false → (k.record log now).1.times = counted) := by
  intro exactness
  have logged :=
    (exactness ⟨.ofMillis 1300, 9⟩ [before, within] (after 200) (by decide)).2 (by decide)
  exact absurd logged (by decide)

end Tracker

end FleetMend
