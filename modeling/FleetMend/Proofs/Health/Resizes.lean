import FleetMend.Cycle.Autoscale
import Mathlib.Data.List.Nodup

/-!
What one evaluation of the volumes asks for, and what the next one finds to add.

* `DiskUsage.GrowsTo`: a sample calls for its volume to grow, and for this size.
* `DiskUsage.Asks`: it does, and another size, or none, has been asked for so far.
* `planResizes_exact`: the request for a volume is that of the last of its samples that asks, and
  the samples of other volumes have no part in it; what fails is told in the order of the samples.
* `planResizes_again`: where nothing has changed but the requests, a volume is asked for again only
  if two of its samples call for different sizes.
-/

namespace FleetMend

/-! ### Samples -/

namespace DiskUsage

/-- The sample is at or over the trigger and below the ceiling, and the size after the increase can
be computed: it calls for that size, or for the ceiling where the size would not be less. -/
def GrowsTo (spec : AutoscaleSpec) (sample : DiskUsage) (size : Quantity) : Prop :=
  spec.trigger ≤ sample.percentUsed ∧
    ∃ next, nextCapacity sample.capacity spec.increase = .ok next ∧
      match spec.limit? with
      | none => size = next
      | some top => sample.capacity < top ∧ size = .min top next

/-- The sample calls for a size, and the request so far is for another, or there is none. -/
def Asks (spec : AutoscaleSpec) (current : SortedMap String ResizeRequest) (sample : DiskUsage)
    (size : Quantity) : Prop :=
  sample.GrowsTo spec size ∧
    ∀ asked, current.find? sample.name = some asked → asked.size.value ≠ size.value

/-- Why the size of a volume at or over the trigger cannot be computed, if it cannot. -/
def failure? (spec : AutoscaleSpec) (sample : DiskUsage) : Option HealthError :=
  if spec.trigger ≤ sample.percentUsed then
    match nextCapacity sample.capacity spec.increase with
    | .error e => some e
    | .ok _ => none
  else none

variable {spec : AutoscaleSpec} {current : SortedMap String ResizeRequest} {sample : DiskUsage}
  {size other : Quantity}

/-- A sample calls for one size. -/
theorem GrowsTo.unique (h : sample.GrowsTo spec size) (h' : sample.GrowsTo spec other) :
    size = other := by
  obtain ⟨-, next, computed, h⟩ := h
  obtain ⟨-, next', computed', h'⟩ := h'
  obtain rfl := Except.ok.inj (computed.symm.trans computed')
  cases hl : spec.limit? with
  | none =>
    rw [hl] at h h'
    exact h.trans h'.symm
  | some top =>
    rw [hl] at h h'
    exact h.2.trans h'.2.symm

theorem GrowsTo.le_limit (h : sample.GrowsTo spec size) {top : Quantity}
    (hl : spec.limit? = some top) : size ≤ top := by
  obtain ⟨-, next, -, h⟩ := h
  rw [hl] at h
  rw [h.2]
  exact Quantity.min_le_left

theorem GrowsTo.lt_limit (h : sample.GrowsTo spec size) {top : Quantity}
    (hl : spec.limit? = some top) : sample.capacity < top := by
  obtain ⟨-, next, -, h⟩ := h
  rw [hl] at h
  exact h.1

end DiskUsage

section

variable {samples : List DiskUsage} {spec : AutoscaleSpec}
  {current : SortedMap String ResizeRequest} {now : Time} {sample : DiskUsage}
  {capacity next size : Quantity} {volume : String}

theorem growTo?_eq_some_iff {limit : Option Quantity} :
    growTo? capacity next limit = some size ↔
      match limit with
      | none => size = next
      | some top => capacity < top ∧ size = .min top next := by
  cases limit with
  | none => simp [growTo?, eq_comm]
  | some top =>
    by_cases reached : top ≤ capacity
    · simp [growTo?, reached, ← Quantity.not_le]
    · have clamped : (if top ≤ next then top else next) = Quantity.min top next := by
        by_cases h : top ≤ next
        · simp [Quantity.min, h, ← Quantity.not_le]
        · simp [Quantity.min, h, ← Quantity.not_le]
      simp [growTo?, reached, ← Quantity.not_le, clamped, eq_comm]

theorem assess_eq_fail_iff {e : HealthError} :
    assess spec current sample = .fail e ↔ sample.failure? spec = some e := by
  unfold assess DiskUsage.failure?
  by_cases below : sample.percentUsed < spec.trigger
  · simp [below, ← UInt32.not_lt]
  · rw [if_neg below, if_pos (UInt32.not_lt.1 below)]
    cases nextCapacity sample.capacity spec.increase with
    | error e' => simp
    | ok next =>
      dsimp only
      split
      · simp
      · split
        · split <;> simp
        · simp

theorem assess_eq_request_iff :
    assess spec current sample = .request size ↔ sample.Asks spec current size := by
  unfold assess DiskUsage.Asks DiskUsage.GrowsTo
  by_cases below : sample.percentUsed < spec.trigger
  · simp [below, ← UInt32.not_lt]
  · rw [if_neg below]
    simp only [UInt32.not_lt.1 below, true_and]
    cases nextCapacity sample.capacity spec.increase with
    | error e => simp
    | ok next =>
      simp only [Except.ok.injEq, exists_eq_left', ← growTo?_eq_some_iff]
      cases growTo? sample.capacity next spec.limit? with
      | none => simp
      | some grown =>
        cases current.find? sample.name with
        | none => simp
        | some asked =>
          dsimp only
          split
          · next same =>
            have same := beq_iff_eq.1 (Quantity.beq_def.symm.trans same)
            simpa using fun h : grown = size => h ▸ same
          · next other =>
            have other := mt beq_iff_eq.2 (Quantity.beq_def ▸ other)
            simpa using fun h : grown = size => h ▸ other

/-! ### One evaluation -/

/-- The entry that a sample adds to the requests. -/
def addition? (spec : AutoscaleSpec) (current : SortedMap String ResizeRequest) (now : Time)
    (sample : DiskUsage) : Option (String × ResizeRequest) :=
  match assess spec current sample with
  | .request size => some (sample.name, ⟨size, now⟩)
  | _ => none

theorem addition?_eq_some_iff {e : String × ResizeRequest} :
    addition? spec current now sample = some e ↔
      ∃ size, sample.Asks spec current size ∧ e = (sample.name, ⟨size, now⟩) := by
  simp only [← assess_eq_request_iff, addition?]
  cases assess spec current sample with
  | leave => simp
  | fail => simp
  | request size => simp [eq_comm]

theorem addition?_eq_none_iff :
    addition? spec current now sample = none ↔ ∀ size, ¬sample.Asks spec current size := by
  simp only [Option.eq_none_iff_forall_ne_some, ne_eq, addition?_eq_some_iff]
  constructor
  · exact fun none size asks => none _ ⟨size, asks, rfl⟩
  · rintro silent _ ⟨size, asks, -⟩
    exact silent size asks

/-- The request for a volume is the last one that its samples add. -/
theorem find?_requests (samples : List DiskUsage) (spec : AutoscaleSpec)
    (current : SortedMap String ResizeRequest) (now : Time) (volume : String) :
    (planResizes samples spec current now).requests.find? volume =
      ((samples.filter (·.name = volume)).filterMap (addition? spec current now)).getLast?.map
        (·.2) := by
  have list : (planResizes samples spec current now).requests =
    .ofList (samples.filterMap (addition? spec current now)) := rfl
  have own (s : DiskUsage) : (addition? spec current now s).filter (·.1 = volume) =
      if decide (s.name = volume) = true then addition? spec current now s else none := by
    cases h : addition? spec current now s with
    | none => simp
    | some e =>
      obtain ⟨size, -, rfl⟩ := addition?_eq_some_iff.1 h
      exact Option.filter_some
  rw [list, SortedMap.find?_ofList, List.filter_filterMap, List.filterMap_filter]
  simp only [own]

theorem find?_requests_eq_some_iff {r : ResizeRequest} :
    (planResizes samples spec current now).requests.find? volume = some r ↔
      ∃ before sample after size, samples = before ++ sample :: after ∧ sample.name = volume ∧
        sample.Asks spec current size ∧ r = ⟨size, now⟩ ∧
        ∀ later ∈ after, later.name = volume → ∀ more, ¬later.Asks spec current more := by
  rw [find?_requests, List.filterMap_filter, List.getLast?_filterMap, Option.map_eq_some_iff]
  simp only [List.findSome?_eq_some_iff, decide_eq_true_eq, Option.ite_none_right_eq_some,
    ite_eq_right_iff, addition?_eq_some_iff, addition?_eq_none_iff]
  constructor
  · rintro ⟨_, ⟨after, sample, before, hs, ⟨rfl, size, asks, rfl⟩, last⟩, rfl⟩
    refine ⟨before.reverse, sample, after.reverse, size, ?_, rfl, asks, rfl, ?_⟩
    · simpa using congrArg List.reverse hs
    · exact fun later hl => last later (List.mem_reverse.1 hl)
  · rintro ⟨before, sample, after, size, rfl, rfl, asks, rfl, last⟩
    refine ⟨_, ⟨after.reverse, sample, before.reverse, by simp, ⟨rfl, size, asks, rfl⟩, ?_⟩, rfl⟩
    exact fun later hl => last later (List.mem_reverse.1 hl)

/-- There is a request for a volume exactly where one of its samples asks. -/
theorem isSome_find?_requests :
    ((planResizes samples spec current now).requests.find? volume).isSome ↔
      ∃ sample ∈ samples, sample.name = volume ∧ ∃ size, sample.Asks spec current size := by
  rw [find?_requests, Option.isSome_map, List.filterMap_filter, List.getLast?_filterMap,
    List.findSome?_isSome_iff]
  simp only [List.mem_reverse, Option.isSome_iff_exists, decide_eq_true_eq,
    Option.ite_none_right_eq_some, addition?_eq_some_iff]
  refine exists_congr fun sample => and_congr_right fun _ => ?_
  constructor
  · rintro ⟨_, same, size, asks, -⟩
    exact ⟨same, size, asks⟩
  · rintro ⟨same, size, asks⟩
    exact ⟨_, same, size, asks, rfl⟩

/-- A request is the one that some sample of its volume makes. -/
theorem exists_asks_of_find?_requests {r : ResizeRequest}
    (h : (planResizes samples spec current now).requests.find? volume = some r) :
    ∃ sample ∈ samples, sample.name = volume ∧ sample.Asks spec current r.size := by
  obtain ⟨before, sample, after, size, rfl, same, asks, rfl, -⟩ := find?_requests_eq_some_iff.1 h
  exact ⟨sample, by simp, same, asks⟩

theorem failures_planResizes (samples : List DiskUsage) (spec : AutoscaleSpec)
    (current : SortedMap String ResizeRequest) (now : Time) :
    (planResizes samples spec current now).failures.items =
      samples.filterMap (·.failure? spec) := by
  refine List.filterMap_congr fun sample _ => ?_
  cases h : assess spec current sample with
  | fail e => exact (assess_eq_fail_iff.1 h).symm
  | leave | request =>
    refine (Option.eq_none_iff_forall_ne_some.2 fun e he => ?_).symm
    cases h.symm.trans (assess_eq_fail_iff.2 he)

end

/-- **One evaluation.**  The failures are those of the samples at or over the trigger whose size
cannot be computed, in order.  The request for a volume is that of the last of its samples that
asks: that calls for a size for which the volume has not been asked so far.  So no request is past
the ceiling; there is none for a volume whose samples are below the trigger or not below the
ceiling; and the samples of other volumes do not matter. -/
theorem planResizes_exact (samples : List DiskUsage) (spec : AutoscaleSpec)
    (current : SortedMap String ResizeRequest) (now : Time) :
    let plan := planResizes samples spec current now
    plan.failures.items = samples.filterMap (·.failure? spec) ∧
      (∀ volume, (plan.requests.find? volume).isSome ↔
        ∃ sample ∈ samples, sample.name = volume ∧ ∃ size, sample.Asks spec current size) ∧
      (∀ volume r, plan.requests.find? volume = some r ↔
        ∃ before sample after size, samples = before ++ sample :: after ∧ sample.name = volume ∧
          sample.Asks spec current size ∧ r = ⟨size, now⟩ ∧
          ∀ later ∈ after, later.name = volume → ∀ more, ¬later.Asks spec current more) ∧
      (∀ top, spec.limit? = some top → ∀ volume r, plan.requests.find? volume = some r →
        r.size ≤ top) ∧
      (∀ volume, (∀ sample ∈ samples, sample.name = volume →
          sample.percentUsed < spec.trigger ∨
            ∃ top, spec.limit? = some top ∧ top ≤ sample.capacity) →
        plan.requests.find? volume = none) ∧
      ∀ volume more, more.filter (·.name = volume) = samples.filter (·.name = volume) →
        (planResizes more spec current now).requests.find? volume =
          plan.requests.find? volume := by
  intro plan
  refine ⟨failures_planResizes samples spec current now, fun volume => isSome_find?_requests,
    fun volume r => find?_requests_eq_some_iff, fun top hl volume r hr => ?_,
    fun volume room => ?_, fun volume more same => ?_⟩
  · obtain ⟨sample, -, -, asks⟩ := exists_asks_of_find?_requests hr
    exact asks.1.le_limit hl
  · refine Option.eq_none_iff_forall_ne_some.2 fun r hr => ?_
    obtain ⟨sample, hs, same, asks⟩ := exists_asks_of_find?_requests hr
    rcases room sample hs same with below | ⟨top, hl, reached⟩
    · exact UInt32.not_lt.2 asks.1.1 below
    · exact Quantity.not_lt.2 reached (asks.1.lt_limit hl)
  · rw [find?_requests, find?_requests, same]

/-! Two volumes, one of them at the ceiling, the other with two samples that call for different
sizes. -/

namespace Volumes

def bytes (n : Int64) : Quantity := ⟨n, .decimal⟩

def spec : AutoscaleSpec := { trigger := 80, increase := "50%", ceiling := some (bytes 120) }

def first : DiskUsage := ⟨"claim-0", 90, bytes 100⟩

def full : DiskUsage := ⟨"claim-1", 95, bytes 120⟩

def second : DiskUsage := ⟨"claim-0", 85, bytes 70⟩

def now : Time := ⟨0, false⟩

end Volumes

open Volumes in
/-- The volume at the ceiling is left, and the other asked to grow as its last sample says, which
does not depend on the one at the ceiling. -/
theorem planResizes_exact_clamped :
    let plan := planResizes [first, full, second] spec ∅ now
    spec.limit? = some (bytes 120) ∧
      (∃ r, plan.requests.find? "claim-0" = some r ∧ r.size.value = 105 ∧ r.size ≤ bytes 120) ∧
      plan.requests.find? "claim-1" = none ∧
      [first, second].filter (·.name = "claim-0") =
        [first, full, second].filter (·.name = "claim-0") ∧
      (planResizes [first, second] spec ∅ now).requests.find? "claim-0" =
        plan.requests.find? "claim-0" := by
  intro plan
  obtain ⟨-, -, -, ceiling, none, own⟩ := planResizes_exact [first, full, second] spec ∅ now
  have limit : spec.limit? = some (bytes 120) := rfl
  have size : ((plan.requests.find? "claim-0").map (·.size.value)) = some 105 := by
    decide +kernel
  obtain ⟨r, hr, hsize⟩ := Option.map_eq_some_iff.1 size
  have reached : ∀ sample ∈ [first, full, second], sample.name = "claim-1" →
      sample.percentUsed < spec.trigger ∨
        ∃ top, spec.limit? = some top ∧ top ≤ sample.capacity := by
    intro sample hs same
    simp only [List.mem_cons, List.not_mem_nil, or_false] at hs
    rcases hs with rfl | rfl | rfl
    · exact absurd same (by decide)
    · exact .inr ⟨bytes 120, limit, by decide⟩
    · exact absurd same (by decide)
  exact ⟨limit, ⟨r, hr, hsize, ceiling _ limit _ _ hr⟩, none "claim-1" reached, rfl,
    own "claim-0" [first, second] rfl⟩

/-! ### The next evaluation -/

/-- The requests of a plan are stored one after the other. -/
theorem resizes_apply (plan : ResizePlan) (t : FleetStatus) :
    (plan.patch.apply t).healing.resizes =
      t.healing.resizes.insertAll plan.requests.entries := by
  suffices ∀ (l : List (String × ResizeRequest)) (t : FleetStatus),
      (Patch.apply (l.map fun e => .requestResize e.1 e.2) t).healing.resizes =
        t.healing.resizes.insertAll l from this plan.requests.entries t
  intro l
  induction l with
  | nil => exact fun _ => rfl
  | cons e rest ih => exact fun t => ih _

/-- Where a plan has a request for a volume it is stored, and where not the one so far stays. -/
theorem find?_resizes_apply (plan : ResizePlan) (t : FleetStatus) (volume : String) :
    (plan.patch.apply t).healing.resizes.find? volume =
      (plan.requests.find? volume).or (t.healing.resizes.find? volume) := by
  rw [resizes_apply, SortedMap.find?_insertAll_entries]

section

variable {samples : List DiskUsage} {spec : AutoscaleSpec} {sample : DiskUsage} {size : Quantity}

/-- Once an evaluation is stored, a volume that calls for a size has been asked for the size that
it, or another of its samples, calls for. -/
theorem exists_growsTo_of_find?_resizes_apply (t : FleetStatus) (now : Time)
    (hm : sample ∈ samples) (grows : sample.GrowsTo spec size) :
    ∃ asked, ((planResizes samples spec t.healing.resizes now).patch.apply t).healing.resizes.find?
        sample.name = some asked ∧
      (asked.size.value = size.value ∨
        ∃ other ∈ samples, other.name = sample.name ∧ other.GrowsTo spec asked.size) := by
  rw [find?_resizes_apply]
  cases h : (planResizes samples spec t.healing.resizes now).requests.find? sample.name with
  | some asked =>
    obtain ⟨other, ho, same, asks⟩ := exists_asks_of_find?_requests h
    exact ⟨asked, Option.some_or, .inr ⟨other, ho, same, asks.1⟩⟩
  | none =>
    -- The sample does not ask, though it calls for the size: so that is what stands.
    have silent : ¬sample.Asks spec t.healing.resizes size := fun asks => by
      have asked : ((planResizes samples spec t.healing.resizes now).requests.find?
        sample.name).isSome := isSome_find?_requests.2 ⟨sample, hm, rfl, size, asks⟩
      rw [h] at asked
      cases asked
    have stands : ∃ asked, t.healing.resizes.find? sample.name = some asked ∧
        asked.size.value = size.value := by
      by_contra none
      exact silent ⟨grows, fun asked ha same => none ⟨asked, ha, same⟩⟩
    obtain ⟨asked, ha, same⟩ := stands
    exact ⟨asked, Option.none_or.trans ha, .inl same⟩

/-- **The next evaluation.**  Where the samples are evaluated again after the requests have been
stored, the same fails; and a volume is asked for again exactly where two of its samples call for
different sizes.  So there are no requests where each volume has one sample. -/
theorem planResizes_again (samples : List DiskUsage) (spec : AutoscaleSpec) (t : FleetStatus)
    (now later : Time) :
    let first := planResizes samples spec t.healing.resizes now
    let second := planResizes samples spec (first.patch.apply t).healing.resizes later
    second.failures = first.failures ∧
      (∀ volume, (second.requests.find? volume).isSome ↔
        ∃ a ∈ samples, ∃ b ∈ samples, ∃ m n, a.name = volume ∧ b.name = volume ∧
          a.GrowsTo spec m ∧ b.GrowsTo spec n ∧ m.value ≠ n.value) ∧
      ((samples.map (·.name)).Nodup → second.requests = ∅) := by
  intro first second
  have again (volume : String) : (second.requests.find? volume).isSome ↔
      ∃ a ∈ samples, ∃ b ∈ samples, ∃ m n, a.name = volume ∧ b.name = volume ∧
        a.GrowsTo spec m ∧ b.GrowsTo spec n ∧ m.value ≠ n.value := by
    rw [isSome_find?_requests]
    constructor
    · rintro ⟨a, ha, rfl, m, grows, other⟩
      obtain ⟨asked, stored, same | ⟨b, hb, same, grows'⟩⟩ :=
        exists_growsTo_of_find?_resizes_apply t now ha grows
      · exact absurd same (other asked stored)
      · exact ⟨a, ha, b, hb, m, asked.size, rfl, same, grows, grows', (other asked stored).symm⟩
    · rintro ⟨a, ha, b, hb, m, n, rfl, same, grows, grows', ne⟩
      by_cases stands : ∃ asked, (first.patch.apply t).healing.resizes.find? a.name = some asked ∧
          asked.size.value = m.value
      · -- What stands is the size of the one, so the other asks.
        obtain ⟨asked, stored, eq⟩ := stands
        refine ⟨b, hb, same, n, grows', fun asked' stored' => ?_⟩
        obtain rfl := Option.some.inj (stored.symm.trans (same ▸ stored'))
        exact eq ▸ ne
      · exact ⟨a, ha, rfl, m, grows, fun asked stored eq => stands ⟨asked, stored, eq⟩⟩
  refine ⟨congrArg Failures.mk ?_, again, fun distinct => SortedMap.ext_find? fun volume => ?_⟩
  · exact (failures_planResizes samples spec _ later).trans
      (failures_planResizes samples spec _ now).symm
  · rw [SortedMap.find?_empty, ← Option.not_isSome_iff_eq_none, again]
    rintro ⟨a, ha, b, hb, m, n, rfl, same, grows, grows', ne⟩
    obtain rfl := List.inj_on_of_nodup_map distinct ha hb same.symm
    exact ne (congrArg Quantity.value (grows.unique grows'))

end

open Volumes in
/-- Where each volume has one sample nothing is asked for twice.  The two sizes that the samples of
one volume call for are asked for in turn. -/
theorem planResizes_again_distinct :
    let again (samples : List DiskUsage) : ResizePlan :=
      let first := planResizes samples spec ({} : FleetStatus).healing.resizes now
      planResizes samples spec (first.patch.apply {}).healing.resizes now
    ([first, full].map (·.name)).Nodup ∧ (again [first, full]).requests = ∅ ∧
      ((again [first, full, second]).requests.find? "claim-0").isSome := by
  intro again
  have distinct : ([first, full].map (·.name)).Nodup := by decide
  exact ⟨distinct, (planResizes_again [first, full] spec {} now now).2.2 distinct,
    by decide +kernel⟩

end FleetMend
