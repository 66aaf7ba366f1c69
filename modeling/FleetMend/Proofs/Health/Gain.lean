import FleetMend.Proofs.Health.NextCapacity
import FleetMend.Proofs.Health.Resizes

/-!
Which requests are for more than a volume has.

* `Gains`: the increase adds to a size.  Not every increase does: a percentage or a size may be
  negative or nothing, and a small share is rounded to nothing.
* `request_larger_iff`: a request is for more than the capacity that it was made at exactly where
  the increase adds to it, and else it is for what the increase comes to.
* `requested_smaller`: so a volume can be asked to shrink.
-/

namespace FleetMend

/-- The increase adds to the size: it is a percentage that comes to half a byte at least, or a size
above nothing. -/
def Gains (increase : String) (capacity : Quantity) : Prop :=
  (∃ p, Share.Percentage increase p ∧ 50 ≤ capacity.value.toInt * p.toInt) ∨
    ∃ q, Quantity.read increase = .ok q ∧ 0 < q.value.toInt

section

variable {increase : String} {capacity next size : Quantity} {p p' : Int64}

theorem Share.Percentage.unique (h : Percentage increase p) (h' : Percentage increase p') :
    p' = p :=
  Except.ok.inj (h'.resolve.symm.trans h.resolve)

theorem Share.Percentage.read_ne (h : Percentage increase p) (q : Quantity) :
    Quantity.read increase ≠ .ok q := by
  intro read
  have resolve := h.resolve
  rw [Share.resolve, Share.readPercent_of_read read] at resolve
  cases resolve

theorem nearestAway_pos_iff {value percent : Int} :
    0 < nearestAway (value * percent / 100) ↔ 50 ≤ value * percent := by
  rw [← hundredths_eq_nearestAway, hundredths_eq]
  split <;> omega

theorem nextCapacity_larger_iff (h : nextCapacity capacity increase = .ok next) :
    capacity < next ↔ Gains increase capacity := by
  rw [Quantity.lt_iff_toInt_lt]
  cases nextCapacity_eq_iff.1 h with
  | share percentage rounded fits value =>
    rw [value, rounded, lt_add_iff_pos_right, nearestAway_pos_iff]
    constructor
    · exact fun enough => .inl ⟨_, percentage, enough⟩
    · rintro (⟨p, percentage', enough⟩ | ⟨q, read, -⟩)
      · exact percentage.unique percentage' ▸ enough
      · exact absurd read (percentage.read_ne q)
  | size other read value =>
    rw [value, lt_add_iff_pos_right]
    constructor
    · exact fun more => .inr ⟨_, read, more⟩
    · rintro (⟨p, percentage, -⟩ | ⟨q, read', more⟩)
      · exact absurd percentage (other p)
      · cases read.symm.trans read'
        exact more

end

theorem Quantity.lt_min_iff {a b c : Quantity} : c < min a b ↔ c < a ∧ c < b := by
  simp only [min, lt_iff_toInt_lt]
  split <;> omega

section

variable {samples : List DiskUsage} {spec : AutoscaleSpec}
  {current : SortedMap String ResizeRequest} {now : Time} {sample : DiskUsage} {size : Quantity}
  {volume : String}

/-- The ceiling does not come between, as the volume is below it. -/
theorem DiskUsage.GrowsTo.larger_iff (h : sample.GrowsTo spec size) :
    sample.capacity < size ↔ Gains spec.increase sample.capacity := by
  obtain ⟨-, next, computed, h⟩ := h
  rw [← nextCapacity_larger_iff computed]
  cases hl : spec.limit? with
  | none =>
    rw [hl] at h
    rw [h]
  | some top =>
    rw [hl] at h
    rw [h.2, Quantity.lt_min_iff, and_iff_right h.1]

theorem DiskUsage.GrowsTo.nextCapacity_of_not_gains (h : sample.GrowsTo spec size)
    (none : ¬Gains spec.increase sample.capacity) :
    nextCapacity sample.capacity spec.increase = .ok size := by
  obtain ⟨-, next, computed, h⟩ := h
  have less := mt (nextCapacity_larger_iff computed).1 none
  cases hl : spec.limit? with
  | none =>
    rw [hl] at h
    rw [h, computed]
  | some top =>
    rw [hl] at h
    have below : next < top := by
      have room := Quantity.lt_iff_toInt_lt.1 h.1
      rw [Quantity.lt_iff_toInt_lt] at less ⊢
      omega
    rw [h.2, Quantity.min, if_pos below, computed]

/-- **Larger requests.**  A request is the one that the last asking sample of its volume makes.  It
is for more than that sample's capacity exactly where the increase adds to it, and else for what the
increase comes to, whatever the ceiling. -/
theorem request_larger_iff {r : ResizeRequest}
    (h : (planResizes samples spec current now).requests.find? volume = some r) :
    ∃ before sample after, samples = before ++ sample :: after ∧ sample.name = volume ∧
      sample.Asks spec current r.size ∧
      (∀ later ∈ after, later.name = volume → ∀ more, ¬later.Asks spec current more) ∧
      (sample.capacity < r.size ↔ Gains spec.increase sample.capacity) ∧
      (¬Gains spec.increase sample.capacity →
        nextCapacity sample.capacity spec.increase = .ok r.size) := by
  obtain ⟨before, sample, after, size, split, same, asks, rfl, last⟩ :=
    find?_requests_eq_some_iff.1 h
  exact ⟨before, sample, after, split, same, asks, last, asks.1.larger_iff,
    asks.1.nextCapacity_of_not_gains⟩

end

/-! A volume that is nearly full, and an increase below nothing. -/

namespace Shrinking

open Volumes (bytes now)

def spec : AutoscaleSpec := { trigger := 80, increase := "-20%" }

def sample : DiskUsage := ⟨"claim-0", 90, bytes 100⟩

theorem requested : ∃ r, (planResizes [sample] spec ∅ now).requests.find? "claim-0" = some r ∧
    r.size.value = 80 := by
  have size : ((planResizes [sample] spec ∅ now).requests.find? "claim-0").map (·.size.value) =
      some 80 := by decide +kernel
  exact Option.map_eq_some_iff.1 size

end Shrinking

open Shrinking in
/-- The increase does not add to the capacity, and is asked for as it is. -/
theorem request_larger_iff_shrinking :
    ∃ r, (planResizes [sample] spec ∅ Volumes.now).requests.find? "claim-0" = some r ∧
      r.size < sample.capacity ∧ ¬Gains spec.increase sample.capacity ∧
      nextCapacity sample.capacity spec.increase = .ok r.size := by
  obtain ⟨r, hr, size⟩ := requested
  obtain ⟨before, s, after, split, -, -, -, larger, computed⟩ := request_larger_iff hr
  obtain rfl : sample = s := by
    have mem : s ∈ [sample] := split ▸ List.mem_append_right before List.mem_cons_self
    exact (List.mem_singleton.1 mem).symm
  have smaller : r.size < sample.capacity := by
    rw [Quantity.lt_iff_toInt_lt, size]
    decide
  have none : ¬Gains spec.increase sample.capacity := fun gains => by
    have more := Quantity.lt_iff_toInt_lt.1 (larger.2 gains)
    have less := Quantity.lt_iff_toInt_lt.1 smaller
    omega
  exact ⟨r, hr, smaller, none, computed none⟩

open Shrinking in
/-- **A volume is asked to shrink.**  Not every increase that can be computed leads to requests for
more than the volumes have. -/
theorem requested_smaller :
    ¬∀ (samples : List DiskUsage) (spec : AutoscaleSpec)
        (current : SortedMap String ResizeRequest) (now : Time) (volume : String)
        (r : ResizeRequest),
      (∀ sample ∈ samples, ∃ next, nextCapacity sample.capacity spec.increase = .ok next) →
      (planResizes samples spec current now).requests.find? volume = some r →
      ∃ sample ∈ samples, sample.name = volume ∧ sample.Asks spec current r.size ∧
        sample.capacity < r.size := by
  intro grows
  obtain ⟨r, hr, size⟩ := requested
  have accepted : ∀ s ∈ [sample], ∃ next, nextCapacity s.capacity spec.increase = .ok next := by
    obtain ⟨s, mem, -, asks⟩ := exists_asks_of_find?_requests hr
    obtain ⟨-, next, computed, -⟩ := asks.1
    rw [List.mem_singleton.1 mem] at computed
    exact List.forall_mem_singleton.2 ⟨next, computed⟩
  obtain ⟨s, mem, -, -, larger⟩ := grows [sample] spec ∅ Volumes.now "claim-0" r accepted hr
  rw [List.mem_singleton.1 mem, Quantity.lt_iff_toInt_lt, size] at larger
  exact absurd larger (by decide)

end FleetMend
