import FleetMend.Proofs.Health.Drift

/-!
Which of the synced pods count as lagging.

* `StatusItem.Stalls`: the height of a pod has been flat for the limit, or longer.
  `StatusItem.Trails`: it is the threshold, or more, below that of the tallest.
* `tallest?_eq_some_iff`: the height that the others are measured by is the greatest, so that none
  is above it.
* `laggingPodsBy_selection`: the pods that stall are lagging, or else those that trail, in order, as
  far as the budget goes; and one that is as tall as any does not trail.
-/

namespace FleetMend

namespace StatusItem

/-- The height has been flat for the limit, or longer; without a limit, or with one of no time at
all, no pod stalls. -/
def Stalls (info : SortedMap String SyncInfo) (spec : DriftSpec) (i : StatusItem) : Prop :=
  ∃ limit ∈ spec.retention, limit ≠ .zero ∧ ∃ s ∈ info.find? i.pod.name, limit ≤ s.flatFor

/-- The item has a height, and none of the others is above it. -/
def IsTallest (items : List StatusItem) (i : StatusItem) : Prop :=
  ∃ top ∈ i.height, ∀ j ∈ items, ∀ h ∈ j.height, h ≤ top

/-- The height is the distance, or more, below that of the tallest. -/
def Trails (items : List StatusItem) (distance : UInt64) (i : StatusItem) : Prop :=
  ∃ tall ∈ items, tall.IsTallest items ∧
    ∃ top ∈ tall.height, ∃ h ∈ i.height, h.toNat + distance.toNat ≤ top.toNat

instance (info : SortedMap String SyncInfo) (spec : DriftSpec) :
    DecidablePred (Stalls info spec) :=
  fun i => decidable_of_iff (spec.retention.any fun limit =>
      limit != .zero && (info.find? i.pod.name).any fun s => limit ≤ s.flatFor) (by
    simp only [Stalls, Option.any_eq_true, Bool.and_eq_true, bne_iff_ne, decide_eq_true_eq,
      Option.mem_def])

-- The heights are those of the items; to search through all numbers would not end.
instance (items : List StatusItem) : DecidablePred (IsTallest items) :=
  fun i => decidable_of_iff (i.height.any fun top =>
      items.all fun j => j.height.all fun h => h ≤ top) (by
    simp only [IsTallest, Option.any_eq_true, List.all_eq_true, Option.all_eq_true,
      decide_eq_true_eq, Option.mem_def])

instance (items : List StatusItem) (distance : UInt64) : DecidablePred (Trails items distance) :=
  fun i => decidable_of_iff (items.any fun tall => tall.IsTallest items &&
      tall.height.any fun top => i.height.any fun h =>
        h.toNat + distance.toNat ≤ top.toNat) (by
    simp only [Trails, List.any_eq_true, Option.any_eq_true, Bool.and_eq_true, decide_eq_true_eq,
      Option.mem_def])

end StatusItem

section

variable {items : List StatusItem} {info : SortedMap String SyncInfo} {spec : DriftSpec}
  {i : StatusItem} {top h distance : UInt64}

/-! ### The greatest height -/

instance lawfulOrderMax : Std.LawfulOrderMax UInt64 := .of_max_le_iff
  (fun a b c => by
    simp only [max, UInt64.le_iff_toNat_le]
    split <;> omega)
  (fun a b => by
    simp only [max]
    split <;> simp)

theorem tallest?_eq_some_iff :
    tallest? items = some top ↔
      (∃ i ∈ syncedItems items, i.height = some top) ∧
        ∀ i ∈ syncedItems items, ∀ h ∈ i.height, h ≤ top := by
  rw [tallest?, List.max?_eq_some_iff]
  simp only [List.mem_filterMap, Option.mem_def]
  refine and_congr_right fun _ => ⟨fun all i hi h hh => all h ⟨i, hi, hh⟩, ?_⟩
  rintro all h ⟨i, hi, hh⟩
  exact all i hi h hh

theorem tallest?_eq_none_iff :
    tallest? items = none ↔ ∀ i ∈ syncedItems items, i.height = none := by
  rw [tallest?, List.max?_eq_none_iff, List.filterMap_eq_nil_iff]

/-- A synced item has a height. -/
theorem height_ne_none (hi : i ∈ syncedItems items) : i.height ≠ none := by
  have synced := (List.mem_filter.1 hi).2
  simp only [StatusItem.isSynced, Bool.and_eq_true] at synced
  exact Option.isSome_iff_ne_none.1 synced.2

/-- The distance to the greatest height is the difference of the two. -/
theorem toNat_tallest_sub (ht : tallest? items = some top) (hi : i ∈ syncedItems items)
    (hh : i.height = some h) : h ≤ top ∧ (top - h).toNat = top.toNat - h.toNat := by
  have below : h ≤ top := (tallest?_eq_some_iff.1 ht).2 i hi h hh
  exact ⟨below, UInt64.toNat_sub_of_le _ _ below⟩

theorem isTallest_iff (ht : tallest? items = some top) (hi : i ∈ syncedItems items) :
    i.IsTallest (syncedItems items) ↔ i.height = some top := by
  obtain ⟨⟨tall, hm, reaches⟩, bound⟩ := tallest?_eq_some_iff.1 ht
  constructor
  · rintro ⟨own, hown, most⟩
    rw [UInt64.le_antisymm (bound i hi own hown) (most tall hm top reaches)] at hown
    exact hown
  · exact fun hh => ⟨top, hh, bound⟩

theorem trails_iff (ht : tallest? items = some top) :
    i.Trails (syncedItems items) distance ↔
      ∃ h ∈ i.height, h.toNat + distance.toNat ≤ top.toNat := by
  constructor
  · rintro ⟨tall, hm, tallest, own, hown, h, hh, apart⟩
    obtain rfl := Option.some.inj (((isTallest_iff ht hm).1 tallest).symm.trans hown)
    exact ⟨h, hh, apart⟩
  · rintro ⟨h, hh, apart⟩
    obtain ⟨tall, hm, reaches⟩ := (tallest?_eq_some_iff.1 ht).1
    exact ⟨tall, hm, (isTallest_iff ht hm).2 reaches, top, reaches, h, hh, apart⟩

/-! ### The two signals -/

theorem stalls_iff :
    i.Stalls info spec ↔ ∃ limit, spec.retentionLimit? = some limit ∧
      ∃ s, info.find? i.pod.name = some s ∧ limit ≤ s.flatFor := by
  simp only [StatusItem.Stalls, DriftSpec.retentionLimit?, Option.filter_eq_some_iff, bne_iff_ne,
    Option.mem_def, and_assoc]

theorem stalled_eq : stalled items info spec = (syncedItems items).filter (·.Stalls info spec) := by
  simp only [stalled, stalls_iff]
  cases spec.retentionLimit? with
  | none => simp
  | some limit =>
    refine List.filter_congr fun i _ => ?_
    cases info.find? i.pod.name <;> simp

theorem behind_eq :
    behind items spec =
      (syncedItems items).filter (·.Trails (syncedItems items) spec.threshold) := by
  unfold behind
  cases ht : tallest? items with
  | none =>
    refine (List.filter_eq_nil_iff.2 fun i hi => absurd ?_ (height_ne_none hi)).symm
    exact tallest?_eq_none_iff.1 ht i hi
  | some top =>
    refine List.filter_congr fun i hi => ?_
    simp only [trails_iff ht]
    cases hh : i.height with
    | none => simp
    | some h =>
      obtain ⟨below, apart⟩ := toNat_tallest_sub ht hi hh
      rw [UInt64.le_iff_toNat_le] at below
      simp only [UInt64.le_iff_toNat_le, apart, Option.mem_some_iff, exists_eq_left']
      exact decide_eq_decide.2 (by omega)

/-! ### The selection -/

/-- An item that is as tall as any does not trail, as long as a distance is asked for. -/
theorem StatusItem.Trails.not_isTallest {items : List StatusItem} (pos : 0 < distance)
    (trails : i.Trails items distance) : ¬i.IsTallest items := by
  obtain ⟨tall, hm, -, top, ht, h, hh, apart⟩ := trails
  rintro ⟨own, hown, most⟩
  obtain rfl := Option.some.inj (hown.symm.trans hh)
  have reached := UInt64.le_iff_toNat_le.1 (most tall hm top ht)
  have some : 0 < distance.toNat := UInt64.lt_iff_toNat_lt.1 pos
  omega

theorem exists_isTallest (some : syncedItems items ≠ []) :
    ∃ i ∈ syncedItems items, i.IsTallest (syncedItems items) := by
  cases ht : tallest? items with
  | none =>
    obtain ⟨i, hi⟩ := List.exists_mem_of_ne_nil _ some
    exact absurd (tallest?_eq_none_iff.1 ht i hi) (height_ne_none hi)
  | some top =>
    obtain ⟨i, hi, hh⟩ := (tallest?_eq_some_iff.1 ht).1
    exact ⟨i, hi, (isTallest_iff ht hi).2 hh⟩

end

/-- **The selection.**  Of the synced pods those that stall are lagging, or else those that trail,
in the order of the snapshot and as far as the budget goes for those that are ready.  No height is
above the one that it is measured by.  Where a distance is asked for, a pod as tall as any does not
trail, and so not all of them do. -/
theorem laggingPodsBy_selection (rule : BudgetRule) (minReady : Span) (items : List StatusItem)
    (info : SortedMap String SyncInfo) (spec : DriftSpec) (rollout : RolloutStrategy)
    (desired : UInt32) (now : Time) :
    let synced := syncedItems items
    let stalls := synced.filter (·.Stalls info spec)
    let trails := synced.filter (·.Trails synced spec.threshold)
    let ready := synced.countP (·.pod.isAvailable minReady now)
    laggingPodsBy rule minReady items info spec rollout desired now =
        ((if stalls = [] then trails else stalls).map (·.pod)).take
          (rule rollout.maxUnavailable desired ready) ∧
      (∀ top, tallest? items = some top → ∀ i ∈ synced, ∀ h, i.height = some h →
        h ≤ top ∧ (top - h).toNat = top.toNat - h.toNat) ∧
      (0 < spec.threshold →
        (∀ i ∈ trails, ¬i.IsTallest synced) ∧ (synced ≠ [] → ∃ i ∈ synced, i ∉ trails)) := by
  intro synced stalls trails ready
  refine ⟨?_, fun top ht i hi h hh => toNat_tallest_sub ht hi hh, fun pos => ?_⟩
  · rw [laggingPodsBy, lagging, stalled_eq, behind_eq, length_availablePods_syncedPods]
    simp only [List.isEmpty_iff]
    rfl
  · have short : ∀ i ∈ trails, ¬i.IsTallest synced := fun i hi =>
      (of_decide_eq_true (List.mem_filter.1 hi).2).not_isTallest pos
    refine ⟨short, fun some => ?_⟩
    obtain ⟨i, hi, tallest⟩ := exists_isTallest some
    exact ⟨i, hi, fun hm => short i hm tallest⟩

/-- Of three pods that are ready, the one as far below the tallest as it may be is lagging. -/
theorem laggingPodsBy_selection_behind :
    let now : Time := ⟨0, false⟩
    let item (n : UInt32) (height : UInt64) : StatusItem :=
      ⟨⟨"osmosis", "default", n, "data", some now, []⟩, some height, some true, none, now⟩
    let items := [item 0 90, item 1 100, item 2 91]
    let spec : DriftSpec := { threshold := 10 }
    0 < spec.threshold ∧ tallest? items = some 100 ∧ (100 - 90 : UInt64).toNat = 10 ∧
      laggingPodsBy disruptionBudget .zero items ∅ spec { maxUnavailable := none } 3 now =
        [(item 0 90).pod] ∧
      ∃ i ∈ syncedItems items, ¬i.Trails (syncedItems items) spec.threshold := by
  intro now item items spec
  obtain ⟨selected, apart, short⟩ := laggingPodsBy_selection disruptionBudget .zero items ∅
    spec { maxUnavailable := none } 3 now
  have pos : 0 < spec.threshold := by decide
  have tallest : tallest? items = some 100 := by decide
  obtain ⟨i, hi, still⟩ := (short pos).2 (by decide)
  exact ⟨pos, tallest, (apart 100 tallest (item 0 90) (by decide) 90 rfl).2,
    selected.trans (by decide +kernel), i, hi,
    fun trails => still (List.mem_filter.2 ⟨hi, decide_eq_true trails⟩)⟩

end FleetMend
