import FleetMend.Health.Drift

/-!
The pods that count as lagging.

* `laggingPods_sublist`: they are synced pods, in the order of the snapshot.
* `length_laggingPods_le`: there are no more of them than the disruption budget allows.
* `Tolerated`: what the disruption policy demands of taking pods down.  `tolerated_laggingPods`: the
  lagging pods meet it, whatever the snapshot and the settings.
-/

namespace FleetMend

variable {minReady : Span} {items : List StatusItem} {info : SortedMap String SyncInfo}
  {spec : DriftSpec} {rollout : RolloutStrategy} {desired : UInt32} {now : Time}

theorem stalled_sublist : (stalled items info spec).Sublist (syncedItems items) := by
  unfold stalled
  split
  · exact List.nil_sublist _
  · exact List.filter_sublist

theorem behind_sublist : (behind items spec).Sublist (syncedItems items) := by
  unfold behind
  split
  · exact List.nil_sublist _
  · exact List.filter_sublist

theorem lagging_sublist : (lagging items info spec).Sublist (syncedPods items) := by
  refine List.Sublist.map _ ?_
  split
  · exact behind_sublist
  · exact stalled_sublist

theorem laggingPods_sublist :
    (laggingPods minReady items info spec rollout desired now).Sublist (syncedPods items) :=
  (List.take_sublist _ _).trans lagging_sublist

theorem length_laggingPods_le :
    (laggingPods minReady items info spec rollout desired now).length ≤
      disruptionBudget rollout.maxUnavailable desired
        (availablePods (syncedPods items) minReady now).length :=
  List.length_take_le _ _

/-! ### The disruption policy -/

/-- What the disruption policy demands where so many pods are desired, so many are available, and so
many may be unavailable. -/
structure Tolerated (taken : List Pod) (available : Nat) (allowed : Int) (desired : UInt32) :
    Prop where
  clamped : desired ≠ 0 → 1 ≤ allowed ∧ allowed ≤ desired.toNat
  idle : desired = 0 → taken = []
  limit : taken.length ≤ allowed
  kept : taken ≠ [] → (desired.toNat : Int) - allowed ≤ (available : Int) - taken.length

variable {maxUnavailable : Option Share} {available : Nat}

theorem one_le_allowedUnavailable : 1 ≤ allowedUnavailable maxUnavailable desired :=
  Int.le_max_left _ _

theorem allowedUnavailable_le (h : desired ≠ 0) :
    allowedUnavailable maxUnavailable desired ≤ desired.toNat := by
  have some : desired.toNat ≠ 0 := fun none => h (UInt32.toNat_inj.1 none)
  refine Int.max_le.2 ⟨by omega, Int.min_le_right _ _⟩

@[simp] theorem disruptionBudget_zero : disruptionBudget maxUnavailable 0 available = 0 := rfl

/-- The budget for a fleet that is to have pods. -/
theorem disruptionBudget_of_ne_zero (maxUnavailable : Option Share) (available : Nat)
    (h : desired ≠ 0) :
    (disruptionBudget maxUnavailable desired available : Int) =
      max 0 (min (available - (desired.toNat - allowedUnavailable maxUnavailable desired))
        (allowedUnavailable maxUnavailable desired)) := by
  rw [disruptionBudget, if_neg h]
  exact Int.toNat_of_nonneg (Int.le_max_left _ _)

/-- The budget keeps to the policy: pods that are within it may be taken down. -/
theorem tolerated_of_length_le {taken : List Pod}
    (h : taken.length ≤ disruptionBudget maxUnavailable desired available) :
    Tolerated taken available (allowedUnavailable maxUnavailable desired) desired := by
  have least : 1 ≤ allowedUnavailable maxUnavailable desired := one_le_allowedUnavailable
  by_cases none : desired = 0
  · subst none
    rw [disruptionBudget_zero, Nat.le_zero] at h
    obtain rfl := List.eq_nil_of_length_eq_zero h
    exact ⟨fun h => absurd rfl h, fun _ => rfl, Int.le_trans (by decide) least,
      fun h => absurd rfl h⟩
  · have budget := disruptionBudget_of_ne_zero maxUnavailable available none
    refine ⟨fun _ => ⟨least, allowedUnavailable_le none⟩, fun h => absurd h none, ?_, fun some => ?_⟩
    · omega
    · have pos : 0 < taken.length := List.length_pos_iff.2 some
      omega

/-- The items of available pods are as many as the available pods. -/
theorem length_availablePods_syncedPods :
    (availablePods (syncedPods items) minReady now).length =
      (syncedItems items).countP (·.pod.isAvailable minReady now) := by
  rw [availablePods, syncedPods, ← List.countP_eq_length_filter, List.countP_map]
  rfl

/-- **The disruption policy.**  The lagging pods are few enough to be taken down at once: no more
than may be unavailable, and few enough for the others that are desired to be available. -/
theorem tolerated_laggingPods :
    Tolerated (laggingPods minReady items info spec rollout desired now)
      ((syncedItems items).countP (·.pod.isAvailable minReady now))
      (allowedUnavailable rollout.maxUnavailable desired) desired := by
  rw [← length_availablePods_syncedPods]
  exact tolerated_of_length_le length_laggingPods_le

end FleetMend
