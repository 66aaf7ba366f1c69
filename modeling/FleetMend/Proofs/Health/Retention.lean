import FleetMend.Health.Drift
import Mathlib.Data.List.Nodup

/-!
For how long the height of a pod has been flat, over a run of snapshots.

* `syncInfoAfter`: the state of the pods after so many snapshots, each taken after the one before.
* `Stretch`: snapshots in a row in all of which a pod answers with the same height.
* `lastBlockAt_of_stretch`: the height of a pod counts as flat from the first answer of its stretch
  on, also while the pod cannot be asked after it.
* `restarted_by_silence`: an answer after a failure begins another stretch, though the height is the
  same.
* `flat_of_retained`: a height that counts as flat for some time was the answer in every snapshot of
  that time, so that no pod is taken for stalled whose height has changed.
-/

namespace FleetMend

/-! ### Snapshots -/

/-- No two items of a snapshot are of one pod. -/
def Distinct (items : List StatusItem) : Prop := (items.map (·.pod.name)).Nodup

instance (items : List StatusItem) : Decidable (Distinct items) :=
  inferInstanceAs (Decidable (List.Nodup _))

/-- The pod answers, and has the height. -/
def Answers (items : List StatusItem) (pod : String) (height : UInt64) : Prop :=
  ∃ i ∈ items, i.pod.name = pod ∧ i.error = none ∧ i.height = some height

instance (items : List StatusItem) (pod : String) (height : UInt64) :
    Decidable (Answers items pod height) :=
  inferInstanceAs (Decidable (∃ i ∈ items, _))

/-- The pod is there and cannot be asked. -/
def Fails (items : List StatusItem) (pod : String) : Prop :=
  ∃ i ∈ items, i.pod.name = pod ∧ i.error.isSome

instance (items : List StatusItem) (pod : String) : Decidable (Fails items pod) :=
  inferInstanceAs (Decidable (∃ i ∈ items, _))

section

variable {items : List StatusItem} {previous : SortedMap String SyncInfo} {pod : String}
  {height : UInt64} {info : SyncInfo}

/-- What a snapshot says about a pod depends on its item, and on the state of the pod before. -/
theorem find?_deriveSyncInfo_eq_some_iff (distinct : Distinct items) :
    (deriveSyncInfo items previous).find? pod = some info ↔
      ∃ i ∈ items, i.pod.name = pod ∧ info = .ofItem i (previous.find? pod) := by
  have keys : ((items.map fun i =>
      (i.pod.name, SyncInfo.ofItem i (previous.find? i.pod.name))).map (·.1)).Nodup := by
    rwa [List.map_map]
  rw [deriveSyncInfo, SortedMap.find?_ofList_eq_some_iff keys, List.mem_map]
  refine exists_congr fun i => and_congr_right fun _ => ?_
  constructor
  · intro h
    obtain ⟨rfl, rfl⟩ := Prod.mk.inj h
    exact ⟨rfl, rfl⟩
  · rintro ⟨rfl, rfl⟩
    rfl

/-- The items of a pod say the same. -/
theorem Distinct.eq (distinct : Distinct items) {i j : StatusItem} (hi : i ∈ items)
    (hj : j ∈ items) (same : i.pod.name = j.pod.name) : i = j :=
  List.inj_on_of_nodup_map distinct hi hj same

/-- Only an answer has a height. -/
theorem SyncInfo.height_ofItem {i : StatusItem} {before : Option SyncInfo} :
    (SyncInfo.ofItem i before).height = some height ↔ i.error = none ∧ i.height = some height := by
  show (if i.error.isSome then none else i.height) = some height ↔ _
  cases i.error <;> simp

variable {item : StatusItem} {before : Option SyncInfo}

/-- Where a pod answers with the height of before, the height has changed when it had before. -/
theorem StatusItem.lastChange_of_same (answers : item.error = none ∧ item.height = some height)
    (same : info.height = some height) : item.lastChange (some info) = info.lastBlockAt := by
  simp [lastChange, answers, same]

/-- Where it answers with a height that it did not have before, the height has changed just now. -/
theorem StatusItem.lastChange_of_other (answers : item.error = none ∧ item.height = some height)
    (other : ∀ b, before = some b → b.height ≠ some height) :
    item.lastChange before = item.observedAt := by
  cases before with
  | none => rfl
  | some b => simp [lastChange, answers, other b rfl]

/-- Where it cannot be asked, the height has changed when it had before. -/
theorem StatusItem.lastChange_of_fails (fails : item.error.isSome) :
    item.lastChange (some info) = info.lastBlockAt := by
  simp [lastChange, fails]

end

/-! ### A run of snapshots -/

/-- The state of the pods after the first `n` snapshots of a run. -/
def syncInfoAfter (run : Nat → List StatusItem) : Nat → SortedMap String SyncInfo
  | 0 => ∅
  | n + 1 => deriveSyncInfo (run n) (syncInfoAfter run n)

/-- From snapshot `k` to snapshot `n` the pod answers with the height, and right before `k` it does
not: it is not there, cannot be asked, or has another height or none. -/
structure Stretch (run : Nat → List StatusItem) (pod : String) (height : UInt64) (k n : Nat) :
    Prop where
  le : k ≤ n
  answers : ∀ j, k ≤ j → j ≤ n → Answers (run j) pod height
  starts : k = 0 ∨ ¬Answers (run (k - 1)) pod height

section

variable {run : Nat → List StatusItem} {pod : String} {height : UInt64} {k m n : Nat}

theorem Stretch.next (h : Stretch run pod height k n) (more : Answers (run (n + 1)) pod height) :
    Stretch run pod height k (n + 1) where
  le := Nat.le_succ_of_le h.le
  answers j hk hj := by
    rcases Nat.le_succ_iff.1 hj with hj | rfl
    · exact h.answers j hk hj
    · exact more
  starts := h.starts

/-- A stretch has one start. -/
theorem Stretch.unique {k' : Nat} (h : Stretch run pod height k n)
    (h' : Stretch run pod height k' n) : k = k' := by
  have le {a b : Nat} (ha : Stretch run pod height a n) (hb : Stretch run pod height b n) :
      b ≤ a := by
    rcases hb.starts with rfl | silent
    · exact Nat.zero_le a
    · refine Nat.le_of_not_lt fun lt => silent (ha.answers _ (by omega) ?_)
      have := hb.le
      omega
  exact Nat.le_antisymm (le h' h) (le h h')

/-- A pod that is in the snapshot has a state after it. -/
theorem find?_syncInfoAfter (distinct : Distinct (run n)) {item : StatusItem} (hm : item ∈ run n) :
    (syncInfoAfter run (n + 1)).find? item.pod.name =
      some (.ofItem item ((syncInfoAfter run n).find? item.pod.name)) :=
  (find?_deriveSyncInfo_eq_some_iff distinct).2 ⟨item, hm, rfl, rfl⟩

/-- A pod has a height after a snapshot where it answered with that height. -/
theorem answers_iff (distinct : Distinct (run n)) :
    Answers (run n) pod height ↔
      ∃ info, (syncInfoAfter run (n + 1)).find? pod = some info ∧ info.height = some height := by
  constructor
  · rintro ⟨item, hm, rfl, answers⟩
    exact ⟨_, find?_syncInfoAfter distinct hm, SyncInfo.height_ofItem.2 answers⟩
  · rintro ⟨info, hinfo, hh⟩
    obtain ⟨item, hm, hn, rfl⟩ := (find?_deriveSyncInfo_eq_some_iff distinct).1 hinfo
    exact ⟨item, hm, hn, SyncInfo.height_ofItem.1 hh⟩

/-- The height of a pod that answers counts as flat from the start of a stretch on. -/
theorem exists_stretch (distinct : ∀ j ≤ n, Distinct (run j))
    (answers : Answers (run n) pod height) :
    ∃ k first info, Stretch run pod height k n ∧ first ∈ run k ∧ first.pod.name = pod ∧
      (syncInfoAfter run (n + 1)).find? pod = some info ∧
      info.lastBlockAt = first.observedAt := by
  induction n with
  | zero =>
    obtain ⟨item, hm, rfl, given⟩ := answers
    refine ⟨0, item, _, ⟨Nat.le_refl 0, fun j _ hj => ?_, .inl rfl⟩, hm, rfl,
      find?_syncInfoAfter (distinct 0 (Nat.le_refl 0)) hm, rfl⟩
    obtain rfl := Nat.le_zero.1 hj
    exact ⟨item, hm, rfl, given⟩
  | succ n ih =>
    have here := distinct (n + 1) (Nat.le_refl _)
    have past := distinct n (Nat.le_succ n)
    obtain ⟨item, hm, rfl, given⟩ := id answers
    by_cases before : Answers (run n) item.pod.name height
    · obtain ⟨k, first, info, stretch, hf, hn, hinfo, hlast⟩ :=
        ih (fun j hj => distinct j (Nat.le_succ_of_le hj)) before
      obtain ⟨info', hinfo', same⟩ := (answers_iff past).1 before
      obtain rfl := Option.some.inj (hinfo'.symm.trans hinfo)
      refine ⟨k, first, _, stretch.next answers, hf, hn, find?_syncInfoAfter here hm, ?_⟩
      rw [← hlast, hinfo]
      exact StatusItem.lastChange_of_same given same
    · -- Without such an answer in the snapshot before, the stretch begins here.
      refine ⟨n + 1, item, _, ⟨Nat.le_refl _, fun j hk hj => ?_, .inr before⟩, hm, rfl,
        find?_syncInfoAfter here hm, ?_⟩
      · obtain rfl := Nat.le_antisymm hj hk
        exact answers
      · exact StatusItem.lastChange_of_other given fun info hinfo same =>
          before ((answers_iff past).2 ⟨info, hinfo, same⟩)

/-- The time of the last change stays while the pod cannot be asked. -/
theorem lastBlockAt_of_fails (distinct : ∀ j, m < j → j ≤ n → Distinct (run j))
    (silent : ∀ j, m < j → j ≤ n → Fails (run j) pod) (le : m ≤ n) {last : Time}
    (known : ∃ info, (syncInfoAfter run (m + 1)).find? pod = some info ∧ info.lastBlockAt = last) :
    ∃ info, (syncInfoAfter run (n + 1)).find? pod = some info ∧ info.lastBlockAt = last := by
  induction le with
  | refl => exact known
  | @step n le ih =>
    obtain ⟨info, hinfo, hlast⟩ := ih (fun j hm hj => distinct j hm (Nat.le_succ_of_le hj))
      fun j hm hj => silent j hm (Nat.le_succ_of_le hj)
    obtain ⟨item, hm, rfl, fails⟩ := silent (n + 1) (Nat.lt_succ_of_le le) (Nat.le_refl _)
    refine ⟨_, find?_syncInfoAfter (distinct (n + 1) (Nat.lt_succ_of_le le) (Nat.le_refl _)) hm, ?_⟩
    rw [← hlast, hinfo]
    exact StatusItem.lastChange_of_fails fails

/-- **The stall clock.**  A pod answers with one height from one snapshot to another, and cannot be
asked in those after it, if there are any.  Then its height has changed, and counts as flat, from
the first of these answers on.  Right before it the pod had no such answer: so an answer after a
failure starts the clock anew, whatever the height was before the failure. -/
theorem lastBlockAt_of_stretch (distinct : ∀ j ≤ n, Distinct (run j)) (le : m ≤ n)
    (stretch : Stretch run pod height k m) (silent : ∀ j, m < j → j ≤ n → Fails (run j) pod)
    {first last : StatusItem} (hf : first ∈ run k) (hfn : first.pod.name = pod)
    (hl : last ∈ run n) (hln : last.pod.name = pod) :
    ∃ info, (syncInfoAfter run (n + 1)).find? pod = some info ∧
      info.lastBlockAt = first.observedAt ∧
      info.flatFor = (last.observedAt.since? first.observedAt).getD .zero := by
  obtain ⟨k', first', info', stretch', hf', hfn', hinfo', hlast'⟩ :=
    exists_stretch (fun j hj => distinct j (Nat.le_trans hj le))
      (stretch.answers m stretch.le (Nat.le_refl m))
  obtain rfl := stretch.unique stretch'
  have km := Nat.le_trans stretch.le le
  obtain rfl := (distinct k km).eq hf hf' (hfn.trans hfn'.symm)
  obtain ⟨info, hinfo, hlast⟩ := lastBlockAt_of_fails (fun j _ hj => distinct j hj) silent le
    ⟨info', hinfo', hlast'⟩
  refine ⟨info, hinfo, hlast, ?_⟩
  subst hln
  rw [find?_syncInfoAfter (distinct n (Nat.le_refl n)) hl] at hinfo
  obtain rfl := Option.some.inj hinfo
  rw [← hlast]
  rfl

end

/-! ### A pod that falls silent -/

namespace Lone

/-- What the pod says so many seconds into the run. -/
def item (secs : Nat) (height : Option UInt64) (error : Option String) : StatusItem where
  pod := { name := "osmosis-0", space := "default", ordinal := 0, claim := "pvc-osmosis-0",
           readySince := some ⟨0, false⟩ }
  height := height
  inSync := some true
  error := error
  observedAt := ⟨secs * 1000000000, false⟩

def answer (secs : Nat) (height : UInt64) : StatusItem := item secs (some height) none

def failure (secs : Nat) : StatusItem := item secs none (some "timeout")

/-- The run whose snapshots are of one item each. -/
def run (items : List StatusItem) (n : Nat) : List StatusItem := items[n]?.toList

theorem distinct (items : List StatusItem) (n : Nat) : Distinct (run items n) := by
  rw [Distinct, run]
  cases items[n]? <;> simp

end Lone

open Lone in
/-- The height counts as flat for the 20 seconds since the second snapshot. -/
theorem lastBlockAt_of_stretch_silent :
    let run := Lone.run [answer 0 90, answer 10 100, answer 20 100, failure 30]
    Stretch run "osmosis-0" 100 1 2 ∧ Fails (run 3) "osmosis-0" ∧
      ∃ info, (syncInfoAfter run 4).find? "osmosis-0" = some info ∧
        info.lastBlockAt = (answer 10 100).observedAt ∧ info.flatFor = .ofSecs 20 := by
  intro run
  have stretch : Stretch run "osmosis-0" 100 1 2 := by
    refine ⟨by decide, fun j hk hj => ?_, .inr (by decide +kernel)⟩
    obtain rfl | rfl : j = 1 ∨ j = 2 := by omega
    all_goals decide +kernel
  have silent : Fails (run 3) "osmosis-0" := by decide +kernel
  have first : answer 10 100 ∈ run 1 := by decide +kernel
  have last : failure 30 ∈ run 3 := by decide +kernel
  obtain ⟨info, hinfo, hlast, hflat⟩ :=
    lastBlockAt_of_stretch (fun j _ => distinct _ j) (show 2 ≤ 3 by decide) stretch
      (fun j hm hn => (show j = 3 by omega) ▸ silent) first rfl last rfl
  exact ⟨stretch, silent, info, hinfo, hlast, hflat.trans (by decide)⟩

open Lone in
/-- **A failure starts the clock anew.**  The height is the same before and after the failure, and
in the end counts as flat for no time at all. -/
theorem restarted_by_silence :
    ¬∀ (run : Nat → List StatusItem) (pod : String) (height : UInt64) (k n : Nat)
        (first last : StatusItem), (∀ j ≤ n, Distinct (run j)) → k ≤ n →
      first ∈ run k → first.pod.name = pod → first.error = none → first.height = some height →
      last ∈ run n → last.pod.name = pod → last.error = none → last.height = some height →
      (∀ j, k ≤ j → j ≤ n → ∃ i ∈ run j, i.pod.name = pod ∧
        (i.error = none → i.height = some height)) →
      (k = 0 ∨ (∀ i ∈ run (k - 1), i.pod.name ≠ pod) ∨
        ∃ other, other ≠ height ∧ Answers (run (k - 1)) pod other) →
      ∃ info, (syncInfoAfter run (n + 1)).find? pod = some info ∧
        info.lastBlockAt = first.observedAt ∧
        info.flatFor = (last.observedAt.since? first.observedAt).getD .zero := by
  intro keeps
  let items := [answer 0 100, failure 30, answer 60 100]
  have there (j : Nat) (_ : 0 ≤ j) (hj : j ≤ 2) : ∃ i ∈ run items j, i.pod.name = "osmosis-0" ∧
      (i.error = none → i.height = some 100) := by
    obtain rfl | rfl | rfl : j = 0 ∨ j = 1 ∨ j = 2 := by omega
    all_goals decide +kernel
  obtain ⟨info, hinfo, hlast, -⟩ := keeps (run items) "osmosis-0" 100 0 2 (answer 0 100)
    (answer 60 100) (fun j _ => distinct items j) (by decide) (by decide +kernel) rfl rfl rfl
    (by decide +kernel) rfl rfl rfl there (.inl rfl)
  have anew : ((syncInfoAfter (run items) 3).find? "osmosis-0").map (·.lastBlockAt) =
      some (answer 60 100).observedAt := by decide +kernel
  rw [hinfo, Option.map_some, hlast] at anew
  exact absurd anew (by decide +kernel)

/-! ### What a flat height says -/

section

variable {run : Nat → List StatusItem} {pod : String} {height : UInt64} {n : Nat}

/-- In every snapshot from `k` to `n` the pod answers with the height, and with no other, and the
last of them was taken the limit or longer after the first. -/
structure FlatSince (run : Nat → List StatusItem) (pod : String) (height : UInt64) (limit : Span)
    (k n : Nat) : Prop where
  lt : k < n
  answers : ∀ j, k ≤ j → j ≤ n → Answers (run j) pod height
  only : ∀ j, k ≤ j → j ≤ n → ∀ i ∈ run j, i.pod.name = pod →
    i.error = none ∧ i.height = some height
  apart : ∃ first ∈ run k, ∃ last ∈ run n, first.pod.name = pod ∧ last.pod.name = pod ∧
    limit.nanos ≤ last.observedAt.elapsed first.observedAt

/-- A synced pod answers. -/
theorem answers_of_isSynced {items : List StatusItem} {item : StatusItem} (hm : item ∈ items)
    (synced : item.isSynced = true) :
    ∃ height, item.height = some height ∧ Answers items item.pod.name height := by
  simp only [StatusItem.isSynced, Bool.and_eq_true, Option.isNone_iff_eq_none] at synced
  obtain ⟨height, hh⟩ := Option.isSome_iff_exists.1 synced.2
  exact ⟨height, hh, item, hm, rfl, synced.1.1, hh⟩

/-- The height of an answer that counts as flat for some time was the answer for that time. -/
theorem exists_flatSince (distinct : ∀ j ≤ n, Distinct (run j))
    (answers : Answers (run n) pod height) {limit : Span} (pos : Span.zero < limit)
    {info : SyncInfo} (hinfo : (syncInfoAfter run (n + 1)).find? pod = some info)
    (retained : limit ≤ info.flatFor) : ∃ k, FlatSince run pod height limit k n := by
  have only (j : Nat) (hj : j ≤ n) (h : Answers (run j) pod height) (i : StatusItem)
      (hi : i ∈ run j) (hn : i.pod.name = pod) : i.error = none ∧ i.height = some height := by
    obtain ⟨a, ha, han, given⟩ := h
    exact (distinct j hj).eq ha hi (han.trans hn.symm) ▸ given
  obtain ⟨k, first, info', stretch, hf, hfn, hinfo', hlast⟩ := exists_stretch distinct answers
  obtain rfl := Option.some.inj (hinfo.symm.trans hinfo')
  obtain ⟨last, hl, hln, rfl⟩ :=
    (find?_deriveSyncInfo_eq_some_iff (distinct n (Nat.le_refl n))).1 hinfo
  have apart : limit.nanos ≤ last.observedAt.elapsed first.observedAt :=
    hlast ▸ Time.le_elapsed pos retained
  refine ⟨k, Nat.lt_of_le_of_ne stretch.le ?_, stretch.answers,
    fun j hk hj => only j hj (stretch.answers j hk hj), first, hf, last, hl, hfn, hln, apart⟩
  -- No time passes within one snapshot.
  rintro rfl
  obtain rfl := (distinct k (Nat.le_refl k)).eq hf hl (hfn.trans hln.symm)
  rw [Time.elapsed_self] at apart
  rw [Span.lt_def] at pos
  omega

/-- **Retention.**  Where the height of a synced pod counts as flat for some time, the pod has
answered with that height, and with no other, in every snapshot of at least that time.  So the pods
that are taken for stalled are pods whose height has not changed for the limit. -/
theorem flat_of_retained (distinct : ∀ j ≤ n, Distinct (run j)) :
    (∀ item ∈ run n, item.isSynced = true → ∃ height info, item.height = some height ∧
      (syncInfoAfter run (n + 1)).find? item.pod.name = some info ∧
      ∀ limit, Span.zero < limit → limit ≤ info.flatFor →
        ∃ k, FlatSince run item.pod.name height limit k n) ∧
    ∀ (rule : BudgetRule) (minReady : Span) (spec : DriftSpec) (rollout : RolloutStrategy)
        (desired : UInt32) (now : Time) (limit : Span), spec.retentionLimit? = some limit →
      stalled (run n) (syncInfoAfter run (n + 1)) spec ≠ [] →
      ∀ pod ∈ laggingPodsBy rule minReady (run n) (syncInfoAfter run (n + 1)) spec rollout
        desired now, ∃ height k, FlatSince run pod.name height limit k n := by
  have here := distinct n (Nat.le_refl n)
  refine ⟨fun item hm synced => ?_, fun rule minReady spec rollout desired now limit hlimit some
    pod hpod => ?_⟩
  · obtain ⟨height, hh, answers⟩ := answers_of_isSynced hm synced
    exact ⟨height, _, hh, find?_syncInfoAfter here hm, fun limit pos retained =>
      exists_flatSince distinct answers pos (find?_syncInfoAfter here hm) retained⟩
  · have chosen := List.mem_of_mem_take hpod
    rw [lagging, if_neg (by simpa using some)] at chosen
    obtain ⟨item, hi, rfl⟩ := List.mem_map.1 chosen
    rw [stalled, hlimit] at hi
    obtain ⟨hs, retained⟩ := List.mem_filter.1 hi
    obtain ⟨hm, synced⟩ := List.mem_filter.1 hs
    obtain ⟨height, hh, answers⟩ := answers_of_isSynced hm synced
    rw [find?_syncInfoAfter here hm] at retained
    obtain ⟨-, other⟩ := Option.filter_eq_some_iff.1 hlimit
    have pos : Span.zero < limit := by
      refine Nat.pos_of_ne_zero fun none => ?_
      have : limit = .zero := congrArg Span.mk none
      simp [this] at other
    obtain ⟨k, flat⟩ := exists_flatSince distinct answers pos (find?_syncInfoAfter here hm)
      (of_decide_eq_true retained)
    exact ⟨height, k, flat⟩

end

open Lone in
/-- The pod is taken for stalled a minute after the height last changed. -/
theorem flat_of_retained_minute :
    let run := Lone.run [answer 0 90, answer 30 100, answer 60 100, answer 90 100]
    let spec : DriftSpec := { threshold := 50, retention := some (.ofSecs 60) }
    let pod := (answer 90 100).pod
    stalled (run 3) (syncInfoAfter run 4) spec ≠ [] ∧
      pod ∈ laggingPods .zero (run 3) (syncInfoAfter run 4) spec {} 1 ⟨90000000000, false⟩ ∧
      ∃ height k, FlatSince run pod.name height (.ofSecs 60) k 3 := by
  intro run spec pod
  have some : stalled (run 3) (syncInfoAfter run 4) spec ≠ [] := by decide +kernel
  have taken : pod ∈ laggingPods .zero (run 3) (syncInfoAfter run 4) spec {} 1
      ⟨90000000000, false⟩ := by decide +kernel
  exact ⟨some, taken, (flat_of_retained fun j _ => distinct _ j).2 disruptionBudget .zero spec {} 1
    ⟨90000000000, false⟩ (.ofSecs 60) rfl some pod taken⟩

end FleetMend
