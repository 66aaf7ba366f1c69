import FleetMend.Proofs.Pruning.Sight
import Mathlib.Data.List.Induction

/-!
Which of the synced pods is taken out for pruning.

* `FirstGreatest`: the first of the entries of a list with the greatest score.
  `fullest?_eq_some_iff`: a pass through the list that keeps the fuller of two comes to it.
* `DiskUsage.Fullest`: of the volumes at or over the trigger that synced pods claim, the first of
  the fullest.  `Pod.ClaimsFirst`: the first of the pods that claim a volume.
* `chooseCandidate_eq_some_iff`: the pod chosen is the first that claims the first of the fullest
  volumes, where it can be spared.
* `findCandidate_fullest`: so is the candidate found, and one is found exactly where there is such a
  volume and a pod can be spared.
-/

namespace FleetMend

/-! ### The first of the greatest -/

/-- The first entry with the greatest score: all before it score less, and none after it more. -/
def FirstGreatest {α : Type} (score : α → UInt32) (l : List α) (a : α) : Prop :=
  ∃ before after, l = before ++ a :: after ∧
    (∀ b ∈ before, score b < score a) ∧ ∀ b ∈ after, score b ≤ score a

namespace FirstGreatest

variable {α : Type} {score : α → UInt32} {l : List α} {a b : α}

theorem le (h : FirstGreatest score l a) (hb : b ∈ l) : score b ≤ score a := by
  obtain ⟨before, after, rfl, less, noMore⟩ := h
  rcases List.mem_append.1 hb with hb | hb
  · exact UInt32.le_of_lt (less b hb)
  · rcases List.mem_cons.1 hb with rfl | hb
    · exact UInt32.le_refl _
    · exact noMore b hb

/-- A list has one such entry at most. -/
theorem unique (h : FirstGreatest score l a) (h' : FirstGreatest score l b) : a = b := by
  obtain ⟨before, after, rfl, less, noMore⟩ := h
  obtain ⟨before', after', split, less', noMore'⟩ := h'
  -- At two places the one in front would score less than the other, and no less.
  rcases List.append_eq_append_iff.1 split with ⟨between, rfl, tail⟩ | ⟨between, rfl, tail⟩
  · cases between with
    | nil => exact (List.cons.inj tail).1
    | cons c between =>
      obtain ⟨rfl, rfl⟩ := List.cons.inj tail
      exact absurd (noMore b (by simp)) (UInt32.not_le.2 (less' a (by simp)))
  · cases between with
    | nil => exact (List.cons.inj tail).1.symm
    | cons c between =>
      obtain ⟨rfl, rfl⟩ := List.cons.inj tail
      exact absurd (noMore' a (by simp)) (UInt32.not_le.2 (less b (by simp)))

/-- One more entry comes first only if it scores more. -/
theorem concat (h : FirstGreatest score l a) (c : α) :
    FirstGreatest score (l ++ [c]) (if score c ≤ score a then a else c) := by
  split
  · next noMore =>
    obtain ⟨before, after, rfl, less, rest⟩ := h
    refine ⟨before, after ++ [c], by simp, less, fun b hb => ?_⟩
    rcases List.mem_append.1 hb with hb | hb
    · exact rest b hb
    · exact List.mem_singleton.1 hb ▸ noMore
  · next more =>
    exact ⟨l, [], rfl, fun b hb => UInt32.lt_of_le_of_lt (h.le hb) (UInt32.not_le.1 more), by simp⟩

end FirstGreatest

/-- The pass that keeps the fuller of two comes to the first of the fullest. -/
theorem firstGreatest_foldl_fuller (v : DiskUsage × Pod) (rest : List (DiskUsage × Pod)) :
    FirstGreatest (·.1.percentUsed) (v :: rest) (rest.foldl fuller v) := by
  induction rest using List.reverseRecOn with
  | nil => exact ⟨[], [], rfl, by simp, by simp⟩
  | append_singleton rest w ih =>
    rw [List.foldl_append, ← List.cons_append]
    exact ih.concat w

theorem fullest?_eq_some_iff {l : List (DiskUsage × Pod)} {v : DiskUsage × Pod} :
    fullest? l = some v ↔ FirstGreatest (·.1.percentUsed) l v := by
  cases l with
  | nil =>
    refine iff_of_false (by simp [fullest?]) ?_
    rintro ⟨before, after, split, -⟩
    exact absurd split.symm (by simp)
  | cons w rest =>
    rw [fullest?, Option.some.injEq]
    have comes := firstGreatest_foldl_fuller w rest
    exact ⟨fun h => h ▸ comes, comes.unique⟩

theorem fullest?_isSome {l : List (DiskUsage × Pod)} : (fullest? l).isSome ↔ l ≠ [] := by
  cases l <;> simp [fullest?]

/-! ### Volumes and the pods that claim them -/

/-- The pod is the first of the list that claims the volume. -/
def Pod.ClaimsFirst (synced : List Pod) (volume : String) (pod : Pod) : Prop :=
  ∃ before after, synced = before ++ pod :: after ∧ pod.claim = volume ∧
    ∀ p ∈ before, p.claim ≠ volume

namespace DiskUsage

/-- The volume is used at or over the trigger, and a synced pod claims it. -/
def Prunable (spec : PruningSpec) (synced : List Pod) (v : DiskUsage) : Prop :=
  spec.trigger ≤ v.percentUsed ∧ ∃ p ∈ synced, p.claim = v.name

/-- Of the volumes at or over the trigger that synced pods claim, the first of the fullest. -/
def Fullest (spec : PruningSpec) (synced : List Pod) (usage : List DiskUsage) (v : DiskUsage) :
    Prop :=
  ∃ before after, usage = before ++ v :: after ∧ v.Prunable spec synced ∧
    (∀ w ∈ before, w.Prunable spec synced → w.percentUsed < v.percentUsed) ∧
    ∀ w ∈ after, w.Prunable spec synced → w.percentUsed ≤ v.percentUsed

/-- The volume with the first synced pod that claims it, as far as it is at or over the trigger. -/
def claimed? (spec : PruningSpec) (synced : List Pod) (v : DiskUsage) : Option (DiskUsage × Pod) :=
  if v.percentUsed < spec.trigger then none
  else (synced.find? fun p => p.claim = v.name).map (v, ·)

end DiskUsage

section

variable {spec : PruningSpec} {synced : List Pod} {usage : List DiskUsage} {v w : DiskUsage}
  {x : DiskUsage × Pod} {pod : Pod}

theorem prunable_eq : prunable spec synced usage = usage.filterMap (·.claimed? spec synced) := rfl

theorem find?_claim_eq_some_iff {volume : String} :
    (synced.find? fun p => p.claim = volume) = some pod ↔ pod.ClaimsFirst synced volume := by
  simp only [List.find?_eq_some_iff_append, Pod.ClaimsFirst, decide_eq_true_eq,
    Bool.not_eq_true', decide_eq_false_iff_not]
  constructor
  · rintro ⟨claims, before, after, split, others⟩
    exact ⟨before, after, split, claims, others⟩
  · rintro ⟨before, after, split, claims, others⟩
    exact ⟨claims, before, after, split, others⟩

theorem claimed?_eq_some_iff :
    v.claimed? spec synced = some (w, pod) ↔
      v = w ∧ spec.trigger ≤ v.percentUsed ∧ pod.ClaimsFirst synced v.name := by
  unfold DiskUsage.claimed?
  split
  · next below => simp [UInt32.not_le.2 below]
  · next enough =>
    simp only [Option.map_eq_some_iff, find?_claim_eq_some_iff, Prod.mk.injEq,
      exists_eq_right_right, UInt32.not_lt.1 enough, true_and]
    exact and_comm

/-- A volume that can be pruned has a first pod that claims it, and only such a volume has one. -/
theorem prunable_iff_exists_claimed? :
    v.Prunable spec synced ↔ ∃ pod, v.claimed? spec synced = some (v, pod) := by
  simp only [claimed?_eq_some_iff, true_and, exists_and_left, DiskUsage.Prunable,
    ← find?_claim_eq_some_iff, ← Option.isSome_iff_exists, List.find?_isSome, decide_eq_true_eq]

/-- What holds of the volumes that are kept holds of those that can be pruned. -/
theorem forall_mem_prunable_iff {P : DiskUsage → Prop} :
    (∀ x ∈ prunable spec synced usage, P x.1) ↔ ∀ w ∈ usage, w.Prunable spec synced → P w := by
  rw [prunable_eq]
  constructor
  · intro all w hw can
    obtain ⟨p, hp⟩ := prunable_iff_exists_claimed?.1 can
    exact all (w, p) (List.mem_filterMap.2 ⟨w, hw, hp⟩)
  · intro all x hx
    obtain ⟨w, hw, hx⟩ := List.mem_filterMap.1 hx
    obtain ⟨rfl, -⟩ := claimed?_eq_some_iff.1 hx
    exact all _ hw (prunable_iff_exists_claimed?.2 ⟨x.2, hx⟩)

/-- Among the volumes with their pods, the first of the fullest is that of all volumes that can be
pruned, with the first pod that claims it. -/
theorem firstGreatest_prunable_iff :
    FirstGreatest (·.1.percentUsed) (prunable spec synced usage) (v, pod) ↔
      v.Fullest spec synced usage ∧ pod.ClaimsFirst synced v.name := by
  constructor
  · rintro ⟨before, after, split, less, noMore⟩
    obtain ⟨front, back, rfl, rfl, rest⟩ := List.filterMap_eq_append_iff.1 split
    obtain ⟨skipped, u, behind, rfl, none, hu, rfl⟩ := List.filterMap_eq_cons_iff.1 rest
    obtain ⟨rfl, enough, claims⟩ := claimed?_eq_some_iff.1 hu
    have less := (forall_mem_prunable_iff (P := (·.percentUsed < u.percentUsed))).1 less
    have noMore := (forall_mem_prunable_iff (P := (·.percentUsed ≤ u.percentUsed))).1 noMore
    have can := prunable_iff_exists_claimed?.2 ⟨pod, hu⟩
    refine ⟨⟨front ++ skipped, behind, by simp, can, fun w hw can => ?_, noMore⟩, claims⟩
    rcases List.mem_append.1 hw with hw | hw
    · exact less w hw can
    · obtain ⟨p, hp⟩ := prunable_iff_exists_claimed?.1 can
      cases (none w hw).symm.trans hp
  · rintro ⟨⟨before, after, rfl, can, less, noMore⟩, claims⟩
    have here : v.claimed? spec synced = some (v, pod) :=
      claimed?_eq_some_iff.2 ⟨rfl, can.1, claims⟩
    refine ⟨prunable spec synced before, prunable spec synced after, ?_,
      forall_mem_prunable_iff.2 less, forall_mem_prunable_iff.2 noMore⟩
    rw [prunable_eq, List.filterMap_append, List.filterMap_cons_some here, prunable_eq, prunable_eq]

/-! ### The choice -/

theorem canSpare_iff :
    canSpare spec synced = true ↔ spec.keepAvailable.toNat + 1 ≤ synced.length := by
  cases synced with
  | nil => simp [canSpare]
  | cons p rest => simp [canSpare]

theorem chooseCandidate_eq_some_iff :
    chooseCandidate spec synced usage = some pod ↔
      spec.keepAvailable.toNat + 1 ≤ synced.length ∧
        ∃ v : DiskUsage, v.Fullest spec synced usage ∧ pod.ClaimsFirst synced v.name := by
  unfold chooseCandidate
  rw [← canSpare_iff]
  split
  · next spare =>
    simp only [Option.map_eq_some_iff, fullest?_eq_some_iff, Prod.exists,
      firstGreatest_prunable_iff, exists_eq_right, spare, true_and]
  · next none => simp [none]

theorem exists_chooseCandidate_iff :
    (∃ pod, chooseCandidate spec synced usage = some pod) ↔
      spec.keepAvailable.toNat + 1 ≤ synced.length ∧ ∃ v ∈ usage, v.Prunable spec synced := by
  have some : prunable spec synced usage ≠ [] ↔ ∃ v ∈ usage, v.Prunable spec synced := by
    rw [Ne, List.eq_nil_iff_forall_not_mem, forall_mem_prunable_iff (P := fun _ => False)]
    simp
  rw [← canSpare_iff, ← some, ← fullest?_isSome, ← Option.isSome_iff_exists, chooseCandidate]
  split
  · next spare => simp [spare]
  · next none => simp [none]

end

/-- **The candidate.**  Of the synced pods that come in time, one is found exactly where there are
more of them than have to remain and one of them claims a volume at or over the trigger.  It is the
first that claims the first of the fullest of these volumes. -/
theorem findCandidate_fullest (spec : PruningSpec) (usage : List DiskUsage) :
    (∀ (timeout : Nat) (f : Fleet) (items : List StatusItem)
        (r : Except PruneError (Option Pod)),
      (findCandidate timeout f spec usage).Ends
          [⟨Request.callWithin (.collectStatus f) timeout,
            (some items : Option (List StatusItem))⟩] r ↔
        r = .ok (chooseCandidate spec (syncedPods items) usage)) ∧
    ∀ synced : List Pod,
      ((∃ pod, chooseCandidate spec synced usage = some pod) ↔
        spec.keepAvailable.toNat + 1 ≤ synced.length ∧ ∃ v ∈ usage, v.Prunable spec synced) ∧
      ∀ pod, chooseCandidate spec synced usage = some pod ↔
        spec.keepAvailable.toNat + 1 ≤ synced.length ∧
          ∃ v : DiskUsage, v.Fullest spec synced usage ∧ pod.ClaimsFirst synced v.name := by
  refine ⟨fun timeout f items r => ?_, fun synced => ⟨exists_chooseCandidate_iff, fun pod =>
    chooseCandidate_eq_some_iff⟩⟩
  rw [ends_findCandidate_iff]
  constructor
  · rintro ⟨x, same, rfl⟩
    cases same
    rfl
  · rintro rfl
    exact ⟨some items, rfl, rfl⟩

/-- Of volumes equally full the first counts, and of pods that claim one volume the first does. -/
example :
    let pod (n : UInt32) (claim : String) : Pod := ⟨"osmosis", "default", n, claim, none, []⟩
    let used (claim : String) (percent : UInt32) : DiskUsage := ⟨claim, percent, .zero⟩
    chooseCandidate { trigger := 80 } [pod 0 "a", pod 1 "b", pod 2 "c", pod 3 "c"]
      [used "a" 79, used "c" 92, used "b" 92, used "d" 99] = some (pod 2 "c") := by decide

end FleetMend
