import FleetMend.Proofs.Health.Drift
import FleetMend.Proofs.Health.NextCapacity
import Mathlib.Order.Bounds.Defs

/-!
The disruption budget, round after round.

* `Resolves`: the count that a setting stands for, whatever it says.
* `Rounds`: pods taken down in rounds, each within the budget for those then ready, and none of them
  back before the last.
* `disruptionBudget_rounds`: the budget is the most that leaves enough pods ready; round after round
  enough of them stay so, and all rounds together take no more than the first might.
-/

namespace FleetMend

/-! ### What may be unavailable -/

/-- The count that a setting stands for, of so many pods desired: one where it is left out, and
where it is a text that is no percentage. -/
inductive Resolves (desired : UInt32) : Option Share → Int → Prop
  | unset : Resolves desired none 1
  | count (n : Int64) : Resolves desired (some (.count n)) n.toInt
  | percent {raw : String} {number : List Char} {n : Int64} (split : raw.toList = number ++ ['%'])
      (written : Digits.Writes number n.toInt) :
      Resolves desired (some (.text raw))
        (Share.percentOfRounded n (.ofNat desired.toNat) false).toInt
  | other {raw : String} (none : ∀ (number : List Char) (n : Int64),
      raw.toList = number ++ ['%'] → ¬Digits.Writes number n.toInt) :
      Resolves desired (some (.text raw)) 1

variable {maxUnavailable : Option Share} {desired : UInt32}

/-- What may be unavailable is the count that the setting stands for, no less than one and no more
than all. -/
theorem exists_resolves (maxUnavailable : Option Share) (desired : UInt32) :
    ∃ n, Resolves desired maxUnavailable n ∧
      allowedUnavailable maxUnavailable desired = max 1 (min n desired.toNat) := by
  match maxUnavailable with
  | none => exact ⟨1, .unset, rfl⟩
  | some (.count n) => exact ⟨n.toInt, .count n, rfl⟩
  | some (.text raw) =>
    cases read : Share.readPercent raw with
    | ok n =>
      obtain ⟨number, split, written⟩ := Share.readPercent_eq_ok_iff.1 read
      exact ⟨_, .percent split written, by simp only [allowedUnavailable, Share.resolve, read]; rfl⟩
    | error e =>
      have unreadable : ∀ (number : List Char) (n : Int64),
          raw.toList = number ++ ['%'] → ¬Digits.Writes number n.toInt := by
        intro number n split written
        cases read.symm.trans (Share.readPercent_eq_ok_iff.2 ⟨number, split, written⟩)
      exact ⟨1, .other unreadable, by simp only [allowedUnavailable, Share.resolve, read]; rfl⟩

/-! ### One round -/

/-- The budget is the most pods, of no more than may be unavailable, that leave as many ready as
have to be; it is nothing where fewer are ready anyway. -/
theorem disruptionBudget_greatest (wanted : desired ≠ 0) (ready : Nat) :
    IsGreatest {k : Nat | k ≤ allowedUnavailable maxUnavailable desired ∧
        desired.toNat - allowedUnavailable maxUnavailable desired ≤ (ready : Int) - k}
      (disruptionBudget maxUnavailable desired ready) ∨
    (∀ k : Nat, ¬desired.toNat - allowedUnavailable maxUnavailable desired ≤ (ready : Int) - k) ∧
      disruptionBudget maxUnavailable desired ready = 0 := by
  have budget := disruptionBudget_of_ne_zero maxUnavailable ready wanted
  have least : 1 ≤ allowedUnavailable maxUnavailable desired := one_le_allowedUnavailable
  by_cases enough : desired.toNat - allowedUnavailable maxUnavailable desired ≤ (ready : Int)
  · refine .inl ⟨⟨by omega, by omega⟩, ?_⟩
    rintro k ⟨allowed, kept⟩
    omega
  · exact .inr ⟨fun k => by omega, by omega⟩

theorem disruptionBudget_mono (wanted : desired ≠ 0) {ready more : Nat} (h : ready ≤ more) :
    disruptionBudget maxUnavailable desired ready ≤
      disruptionBudget maxUnavailable desired more := by
  have budget := disruptionBudget_of_ne_zero maxUnavailable ready wanted
  have budget' := disruptionBudget_of_ne_zero maxUnavailable more wanted
  omega

theorem disruptionBudget_succ_le (wanted : desired ≠ 0) (ready : Nat) :
    disruptionBudget maxUnavailable desired (ready + 1) ≤
      disruptionBudget maxUnavailable desired ready + 1 := by
  have budget := disruptionBudget_of_ne_zero maxUnavailable ready wanted
  have budget' := disruptionBudget_of_ne_zero maxUnavailable (ready + 1) wanted
  omega

/-- No more pods than the budget leave as many ready as have to be, or as there were. -/
theorem le_sub_of_le_disruptionBudget (wanted : desired ≠ 0) {ready k : Nat}
    (h : k ≤ disruptionBudget maxUnavailable desired ready) :
    k ≤ ready ∧ min (ready : Int) (desired.toNat - allowedUnavailable maxUnavailable desired) ≤
      (ready - k : Nat) := by
  have budget := disruptionBudget_of_ne_zero maxUnavailable ready wanted
  have most : allowedUnavailable maxUnavailable desired ≤ desired.toNat :=
    allowedUnavailable_le wanted
  omega

/-! ### Round after round -/

/-- Rounds in which pods are taken down, with how many are ready before the first, how many each
takes, and how many are ready after the last.  Each keeps to the budget for those ready before it,
and none comes back. -/
inductive Rounds (budget : Nat → Nat) : Nat → List Nat → Nat → Prop
  | none (ready : Nat) : Rounds budget ready [] ready
  | round {ready k left : Nat} {taken : List Nat} (within : k ≤ budget ready)
      (rest : Rounds budget (ready - k) taken left) : Rounds budget ready (k :: taken) left

namespace Rounds

variable {ready left : Nat} {taken : List Nat}

/-- What is not taken is left. -/
theorem sum_add_left (wanted : desired ≠ 0)
    (h : Rounds (disruptionBudget maxUnavailable desired) ready taken left) :
    taken.sum + left = ready := by
  induction h with
  | none ready => simp
  | round within _ ih =>
    have step := (le_sub_of_le_disruptionBudget wanted within).1
    rw [List.sum_cons]
    omega

/-- As many stay ready as have to be, or as there were. -/
theorem min_le_left (wanted : desired ≠ 0)
    (h : Rounds (disruptionBudget maxUnavailable desired) ready taken left) :
    min (ready : Int) (desired.toNat - allowedUnavailable maxUnavailable desired) ≤ left := by
  induction h with
  | none ready => exact Int.min_le_left _ _
  | round within _ ih =>
    have step := (le_sub_of_le_disruptionBudget wanted within).2
    omega

/-- From no more pods than are desired, all rounds together take no more than the first might. -/
theorem sum_le (wanted : desired ≠ 0)
    (h : Rounds (disruptionBudget maxUnavailable desired) ready taken left)
    (few : ready ≤ desired.toNat) :
    taken.sum ≤ disruptionBudget maxUnavailable desired ready := by
  have total := h.sum_add_left wanted
  have kept := h.min_le_left wanted
  have budget := disruptionBudget_of_ne_zero maxUnavailable ready wanted
  omega

end Rounds

/-- **The budget.**  What may be unavailable is what the setting stands for, between one and all
that are desired.  The budget is the most that this allows and that leaves as many pods ready as
have to be, or nothing.  Round after round as many stay ready, or as there were; and from no more
pods than are desired, all rounds take no more than the budget of the first.  With every pod more
that is ready, the budget stays or grows by one. -/
theorem disruptionBudget_rounds (maxUnavailable : Option Share) {desired : UInt32}
    (wanted : 0 < desired) :
    let budget := disruptionBudget maxUnavailable desired
    let allowed := allowedUnavailable maxUnavailable desired
    let keep : Int := desired.toNat - allowed
    (∃ n, Resolves desired maxUnavailable n ∧ allowed = max 1 (min n desired.toNat)) ∧
    (∀ ready : Nat,
      IsGreatest {k : Nat | k ≤ allowed ∧ keep ≤ (ready : Int) - k} (budget ready) ∨
        (∀ k : Nat, ¬keep ≤ (ready : Int) - k) ∧ budget ready = 0) ∧
    (∀ (ready : Nat) (taken : List Nat) (left : Nat), Rounds budget ready taken left →
      min (ready : Int) keep ≤ left ∧
        (ready ≤ desired.toNat → taken.sum ≤ budget ready)) ∧
    Monotone budget ∧ ∀ ready, budget (ready + 1) ≤ budget ready + 1 := by
  have wanted : desired ≠ 0 := fun none => by
    rw [none] at wanted
    exact absurd wanted (by decide)
  exact ⟨exists_resolves maxUnavailable desired, disruptionBudget_greatest wanted,
    fun _ _ _ h => ⟨h.min_le_left wanted, h.sum_le wanted⟩,
    fun _ _ h => disruptionBudget_mono wanted h, disruptionBudget_succ_le wanted⟩

/-- Half of five are two: after rounds of one pod, of none and of one more, three are ready. -/
theorem disruptionBudget_rounds_half :
    let setting := some (Share.text "50%")
    let keep : Int := (5 : UInt32).toNat - allowedUnavailable setting 5
    0 < (5 : UInt32) ∧ keep = 3 ∧ Rounds (disruptionBudget setting 5) 5 [1, 0, 1] 3 ∧
      min ((5 : Nat) : Int) keep ≤ (3 : Nat) ∧ [1, 0, 1].sum ≤ disruptionBudget setting 5 5 := by
  have rounds : Rounds (disruptionBudget (some (.text "50%")) 5) 5 [1, 0, 1] 3 :=
    .round (by decide +kernel) (.round (by decide +kernel) (.round (by decide +kernel) (.none 3)))
  obtain ⟨-, -, run, -⟩ := @disruptionBudget_rounds (some (.text "50%")) 5 (by decide)
  obtain ⟨kept, total⟩ := run 5 [1, 0, 1] 3 rounds
  exact ⟨by decide, by decide +kernel, rounds, kept, total (by decide)⟩

end FleetMend
