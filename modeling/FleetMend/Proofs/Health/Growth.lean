import FleetMend.Proofs.Health.Increase
import FleetMend.Proofs.Health.Resizes
import Mathlib.Data.List.Induction

/-!
The sizes that volumes are asked to have, over a run of evaluations.

* `FleetStatus.scaledAll`: the status after evaluations, each stored before the next.
* `DiskUsage.GrowsTo.mono`: a larger sample of a volume does not call for a smaller size.
* `Followed`: every request is the one that some sample so far calls for.
* `requests_rise`: the size asked for goes up or stays, never past the ceiling, and no longer
  changes once the volume has reached the ceiling.
-/

namespace FleetMend

/-! ### Larger samples -/

/-- A larger sample does not call for a smaller size. -/
theorem DiskUsage.GrowsTo.mono {spec : AutoscaleSpec} {a b : DiskUsage} {m n : Quantity}
    (rises : spec.Rises) (h : a.capacity ≤ b.capacity) (ha : a.GrowsTo spec m)
    (hb : b.GrowsTo spec n) : m ≤ n := by
  obtain ⟨-, next, computed, ha⟩ := ha
  obtain ⟨-, next', computed', hb⟩ := hb
  obtain ⟨f, mono, grows⟩ := rises.exists_monotone
  have larger : next ≤ next' := by
    rw [Quantity.le_iff_toInt_le, grows _ _ computed, grows _ _ computed']
    exact mono _ _ (Quantity.le_iff_toInt_le.1 h)
  cases hl : spec.limit? with
  | none =>
    rw [hl] at ha hb
    exact ha ▸ hb ▸ larger
  | some top =>
    rw [hl] at ha hb
    rw [ha.2, hb.2]
    exact Quantity.min_le_min_left larger

/-! ### A run of evaluations -/

/-- Samples of the volumes, and when they are evaluated. -/
structure Evaluation where
  samples : List DiskUsage
  now : Time

namespace FleetStatus

/-- The status after an evaluation whose requests are stored. -/
def scaled (spec : AutoscaleSpec) (t : FleetStatus) (e : Evaluation) : FleetStatus :=
  (planResizes e.samples spec t.healing.resizes e.now).patch.apply t

/-- The status after evaluations, each stored before the next. -/
def scaledAll (spec : AutoscaleSpec) (t : FleetStatus) (run : List Evaluation) : FleetStatus :=
  run.foldl (scaled spec) t

/-- What a volume has been asked to have. -/
def requested? (t : FleetStatus) (volume : String) : Option ResizeRequest :=
  t.healing.resizes.find? volume

end FleetStatus

/-- A volume is sampled no smaller later than earlier. -/
def Evaluation.NoSmaller (earlier later : Evaluation) : Prop :=
  ∀ a ∈ earlier.samples, ∀ b ∈ later.samples, a.name = b.name → a.capacity ≤ b.capacity

instance (earlier later : Evaluation) : Decidable (earlier.NoSmaller later) :=
  inferInstanceAs (Decidable (∀ a ∈ _, _))

/-- Every request is for the size that some sample of the run calls for. -/
def Followed (spec : AutoscaleSpec) (run : List Evaluation) (t : FleetStatus) : Prop :=
  ∀ volume r, t.requested? volume = some r →
    ∃ e ∈ run, ∃ sample ∈ e.samples, sample.name = volume ∧ sample.GrowsTo spec r.size

section

variable {spec : AutoscaleSpec} {t : FleetStatus} {e : Evaluation} {run more : List Evaluation}
  {volume : String} {r : ResizeRequest}

theorem scaledAll_append (run more : List Evaluation) :
    t.scaledAll spec (run ++ more) = (t.scaledAll spec run).scaledAll spec more :=
  List.foldl_append

/-- An evaluation leaves the request for a volume, or puts that of a sample in its stead. -/
theorem requested?_scaled (spec : AutoscaleSpec) (t : FleetStatus) (e : Evaluation)
    (volume : String) :
    (t.scaled spec e).requested? volume = t.requested? volume ∨
      ∃ r, (t.scaled spec e).requested? volume = some r ∧
        ∃ sample ∈ e.samples, sample.name = volume ∧
          sample.Asks spec t.healing.resizes r.size := by
  unfold FleetStatus.requested? FleetStatus.scaled
  rw [find?_resizes_apply]
  cases h : (planResizes e.samples spec t.healing.resizes e.now).requests.find? volume with
  | none => exact .inl Option.none_or
  | some r => exact .inr ⟨r, Option.some_or, exists_asks_of_find?_requests h⟩

theorem Followed.scaled (h : Followed spec run t) :
    Followed spec (run ++ [e]) (t.scaled spec e) := by
  intro volume r hr
  rcases requested?_scaled spec t e volume with same | ⟨r', hr', sample, hs, hn, asks⟩
  · obtain ⟨e', he', found⟩ := h volume r (same.symm.trans hr)
    exact ⟨e', List.mem_append_left _ he', found⟩
  · obtain rfl := Option.some.inj (hr'.symm.trans hr)
    exact ⟨e, by simp, sample, hs, hn, asks.1⟩

/-- Where there are no requests at first, every request has been called for. -/
theorem followed_scaledAll (start : t.healing.resizes = ∅) (run : List Evaluation) :
    Followed spec run (t.scaledAll spec run) := by
  induction run using List.reverseRecOn with
  | nil =>
    intro volume r hr
    rw [FleetStatus.requested?, FleetStatus.scaledAll, List.foldl_nil, start] at hr
    cases hr
  | append_singleton run e ih =>
    rw [scaledAll_append]
    exact ih.scaled

/-- The request of before still stands, or one for more has taken its place. -/
def Raised (t u : FleetStatus) (volume : String) : Prop :=
  ∀ r, t.requested? volume = some r →
    ∃ s, u.requested? volume = some s ∧ (s = r ∨ r.size < s.size)

theorem Raised.trans {t u v : FleetStatus} (h : Raised t u volume) (h' : Raised u v volume) :
    Raised t v volume := by
  intro r hr
  obtain ⟨s, hs, up⟩ := h r hr
  obtain ⟨w, hw, up'⟩ := h' s hs
  refine ⟨w, hw, ?_⟩
  rcases up with rfl | up
  · exact up'
  · rcases up' with rfl | up'
    · exact .inr up
    · exact .inr (Quantity.lt_trans up up')

/-- An evaluation on samples no smaller than those so far raises requests or leaves them. -/
theorem Followed.raised (rises : spec.Rises) (h : Followed spec run t)
    (larger : ∀ e' ∈ run, e'.NoSmaller e) : Raised t (t.scaled spec e) volume := by
  intro r hr
  rcases requested?_scaled spec t e volume with same | ⟨s, hs, sample, hm, rfl, asks⟩
  · exact ⟨r, same.trans hr, .inl rfl⟩
  · obtain ⟨e', he', earlier, hm', same, grows⟩ := h sample.name r hr
    have up : r.size ≤ s.size :=
      grows.mono rises (larger e' he' earlier hm' sample hm same) asks.1
    exact ⟨s, hs, .inr (Quantity.lt_of_le_of_value_ne up (asks.2 r hr))⟩

/-- As long as the samples of a volume are not below the ceiling, its request stays. -/
theorem requested?_scaled_of_full {top : Quantity} (hl : spec.limit? = some top)
    (full : ∀ sample ∈ e.samples, sample.name = volume → top ≤ sample.capacity) :
    (t.scaled spec e).requested? volume = t.requested? volume := by
  rcases requested?_scaled spec t e volume with same | ⟨r, -, sample, hm, hn, asks⟩
  · exact same
  · exact absurd (asks.1.lt_limit hl) (Quantity.not_lt.2 (full sample hm hn))

theorem requested?_scaledAll_of_full {top : Quantity} (hl : spec.limit? = some top)
    (full : ∀ e ∈ run, ∀ sample ∈ e.samples, sample.name = volume → top ≤ sample.capacity) :
    (t.scaledAll spec run).requested? volume = t.requested? volume := by
  induction run generalizing t with
  | nil => rfl
  | cons e run ih =>
    obtain ⟨here, rest⟩ := List.forall_mem_cons.1 full
    exact (ih rest).trans (requested?_scaled_of_full hl here)

/-- Over a run of samples that do not become smaller requests are raised or left. -/
theorem raised_scaledAll (rises : spec.Rises) (start : t.healing.resizes = ∅)
    (larger : (run ++ more).Pairwise Evaluation.NoSmaller) :
    Raised (t.scaledAll spec run) (t.scaledAll spec (run ++ more)) volume := by
  induction more using List.reverseRecOn with
  | nil =>
    rw [List.append_nil]
    exact fun r hr => ⟨r, hr, .inl rfl⟩
  | append_singleton more e ih =>
    rw [← List.append_assoc] at larger ⊢
    obtain ⟨before, -, last⟩ := List.pairwise_append.1 larger
    rw [scaledAll_append (run ++ more)]
    exact (ih before).trans ((followed_scaledAll start _).raised rises
      fun e' he' => last e' he' e List.mem_cons_self)

/-- **Requests rise.**  There are no requests at first, the increase is not negative, and no volume
is sampled smaller later than earlier, nor twice in one evaluation.  Then a request is only ever
replaced by one for more; none is past the ceiling; and from the evaluation on in which a volume has
reached the ceiling, its request stays as it was before. -/
theorem requests_rise (rises : spec.Rises) (start : t.healing.resizes = ∅)
    (distinct : ∀ e ∈ run, (e.samples.map (·.name)).Nodup)
    (larger : run.Pairwise Evaluation.NoSmaller) :
    (∀ past more, run = past ++ more → ∀ volume,
      Raised (t.scaledAll spec past) (t.scaledAll spec run) volume) ∧
    (∀ top, spec.limit? = some top → ∀ volume r,
      (t.scaledAll spec run).requested? volume = some r → r.size ≤ top) ∧
    ∀ past e more, run = past ++ e :: more → ∀ sample ∈ e.samples, ∀ top,
      spec.limit? = some top → top ≤ sample.capacity →
        (t.scaledAll spec run).requested? sample.name =
          (t.scaledAll spec past).requested? sample.name := by
  refine ⟨?_, fun top hl volume r hr => ?_, ?_⟩
  · rintro past more rfl volume
    exact raised_scaledAll rises start larger
  · obtain ⟨e, -, sample, -, -, grows⟩ := followed_scaledAll start run volume r hr
    exact grows.le_limit hl
  · rintro past e more rfl sample hm top hl reached
    have later := (List.pairwise_cons.1 (List.pairwise_append.1 larger).2.1).1
    rw [scaledAll_append]
    refine requested?_scaledAll_of_full hl fun e' he' other ho same => ?_
    rcases List.mem_cons.1 he' with rfl | he'
    · -- The volume has no other sample in this evaluation.
      obtain rfl := List.inj_on_of_nodup_map (distinct e' (by simp)) ho hm same
      exact reached
    · exact Quantity.le_trans reached (later e' he' sample hm other ho same.symm)

end

/-! A volume that grows to its ceiling. -/

namespace Filling

open Volumes (bytes)

def spec : AutoscaleSpec := { trigger := 80, increase := "50%", ceiling := some (bytes 160) }

def sample (capacity : Int64) : DiskUsage := ⟨"claim-0", 90, bytes capacity⟩

def run : List Evaluation :=
  [⟨[sample 100], ⟨0, false⟩⟩, ⟨[sample 150], ⟨60000000000, false⟩⟩,
    ⟨[sample 160], ⟨120000000000, false⟩⟩]

end Filling

open Filling in
open Volumes (bytes) in
/-- It is asked to grow by half, then to the ceiling, and then no more. -/
theorem requests_rise_ceiling :
    let t : FleetStatus := {}
    spec.Rises ∧ t.healing.resizes = ∅ ∧ (∀ e ∈ run, (e.samples.map (·.name)).Nodup) ∧
      run.Pairwise Evaluation.NoSmaller ∧
      (∃ r s, (t.scaledAll spec (run.take 1)).requested? "claim-0" = some r ∧
        (t.scaledAll spec run).requested? "claim-0" = some s ∧ r.size.value = 150 ∧
        r.size < s.size ∧ s.size ≤ bytes 160) ∧
      (t.scaledAll spec run).requested? "claim-0" =
        (t.scaledAll spec (run.take 2)).requested? "claim-0" := by
  intro t
  have rises : spec.Rises := .inl ⟨50, rfl, by decide⟩
  have distinct : ∀ e ∈ run, (e.samples.map (·.name)).Nodup := by decide
  have larger : run.Pairwise Evaluation.NoSmaller := by decide
  obtain ⟨raised, ceiling, stays⟩ := requests_rise rises (t := t) rfl distinct larger
  have half : ((t.scaledAll spec (run.take 1)).requested? "claim-0").map (·.size.value) =
      some 150 := by decide +kernel
  obtain ⟨r, hr, size⟩ := Option.map_eq_some_iff.1 half
  obtain ⟨s, hs, up⟩ := raised (run.take 1) (run.drop 1) rfl "claim-0" r hr
  have more : r.size < s.size := by
    refine up.resolve_left fun same => ?_
    have top : ((t.scaledAll spec run).requested? "claim-0").map (·.size.value) = some 160 := by
      decide +kernel
    rw [hs, same, Option.map_some, size] at top
    cases top
  exact ⟨rises, rfl, distinct, larger, ⟨r, s, hr, hs, size, more, ceiling _ rfl _ _ hs⟩,
    stays (run.take 2) _ [] rfl (sample 160) List.mem_cons_self (bytes 160) rfl (by decide)⟩

end FleetMend
