import FleetMend.Proofs.Cycle.Parts
import FleetMend.Proofs.Health.Drift
import FleetMend.Proofs.Pruning.Choice
import Mathlib.Data.List.Nodup

/-!
The synced pods that a cycle leaves which takes one of them out for pruning.

Pruning and drift decide each by itself.  Pruning takes a pod out where enough synced pods remain
beside it, and does not know which of them drift is about to delete.

* `Orchestrator.deleted_of_ends_evaluate`: a cycle deletes synced pods of its snapshot, and no more
  than the disruption budget.
* `Orchestrator.chosen_of_ends_evaluate`: a cycle that takes a pod out has chosen it among the
  synced pods of its snapshot.
* `Orchestrator.remaining_of_addCandidate`: beside the candidate and the pods deleted, as many
  synced pods remain as have to, less the pods deleted.
* `Orchestrator.candidate_beside_laggard`: no more than that can be said.
-/

namespace FleetMend

/-- The snapshot that an answer brings. -/
def Query.snapshot? : (q : Query) → q.Answer → Option (List StatusItem)
  | .await (.call (.collectStatus _)) _, .ok items => some items
  | .await (.callWithin (.collectStatus _) _) _, .ok items => items
  | _, _ => none

namespace Cycle

/-- The snapshots that a log shows, in order. -/
def snapshots (log : Cycle.Log) : List (List StatusItem) :=
  log.filterMap fun e => e.1.snapshot? e.2

/-- Whatever snapshot a log shows, it is this one. -/
def Sees (log : Cycle.Log) (items : List StatusItem) : Prop := ∀ seen ∈ snapshots log, seen = items

variable {log log' : Cycle.Log} {items seen : List StatusItem}

theorem Sees.eq (h : Sees log items) {e : (q : Query) × q.Answer} (he : e ∈ log)
    (shown : e.1.snapshot? e.2 = some seen) : seen = items :=
  h seen (List.mem_filterMap.2 ⟨e, he, shown⟩)

theorem mem_snapshots_of_subset (hl : ∀ e ∈ log', e ∈ log) (h : seen ∈ snapshots log') :
    seen ∈ snapshots log := by
  obtain ⟨e, he, shown⟩ := List.mem_filterMap.1 h
  exact List.mem_filterMap.2 ⟨e, hl e he, shown⟩

theorem Sees.mono (h : Sees log items) (hl : ∀ e ∈ log', e ∈ log) : Sees log' items :=
  fun seen hseen => h seen (mem_snapshots_of_subset hl hseen)

end Cycle

/-- The pod as a candidate. -/
def Pod.asCandidate (p : Pod) : Candidate := ⟨p.name, p.space⟩

/-- The synced pods that are neither the candidate nor among those that are gone. -/
def remaining (items : List StatusItem) (candidate : Candidate) (gone : List Pod) : List Pod :=
  (syncedPods items).filter fun p => p.asCandidate ≠ candidate ∧ p ∉ gone

/-- Of pods that are told apart by name, those that remain, the candidate and the others that are
gone make up all that are synced. -/
theorem length_le_remaining {items : List StatusItem} {pod : Pod} (gone : List Pod)
    (hm : pod ∈ syncedPods items) (distinct : ((syncedPods items).map Pod.asCandidate).Nodup) :
    (syncedPods items).length ≤ (remaining items pod.asCandidate gone).length +
      (gone.filter fun p => p.asCandidate ≠ pod.asCandidate).length + 1 := by
  let stays (p : Pod) : Bool := p.asCandidate ≠ pod.asCandidate ∧ p ∉ gone
  -- Whoever does not stay is the candidate or gone, each counted once.
  have split := List.length_eq_length_filter_add (l := syncedPods items) stays
  have taken : ((syncedPods items).filter fun p => !stays p).length ≤
      (pod :: gone.filter fun p => p.asCandidate ≠ pod.asCandidate).length := by
    refine List.Nodup.length_le_of_subset (distinct.of_map.filter _) fun p hp => ?_
    obtain ⟨hp, hstays⟩ := List.mem_filter.1 hp
    by_cases same : p.asCandidate = pod.asCandidate
    · obtain rfl := List.inj_on_of_nodup_map distinct hp hm same
      exact List.mem_cons_self
    · have hgone : p ∈ gone := by simpa [stays, same] using hstays
      exact List.mem_cons_of_mem _ (List.mem_filter.2 ⟨hgone, by simpa using same⟩)
  rw [List.length_cons] at taken
  have rest : (remaining items pod.asCandidate gone).length =
      ((syncedPods items).filter stays).length := rfl
  omega

/-! ### Deletions -/

namespace DriftSetting

variable {s : DriftSetting} {pods : List Pod} {pod : Pod} {r r' : Remediation} {log : Cycle.Log}

/-- To remedy a pod is to delete it, and no other. -/
theorem deleted_of_ends_remedy (hr : r.contribution.Aside) (h : (s.remedy r pod).Ends log r') :
    Cycle.deleted log = [pod] := by
  obtain ⟨l₁, l₂, x, rfl, asked, after⟩ := Program.ends_bind_iff.1 h
  obtain ⟨y, bounded, -⟩ := Program.ends_map_iff.1 asked
  obtain ⟨now, answer, rfl, -⟩ := CycleContext.ends_bound_call_iff.1 bounded
  have spared : Cycle.deleted l₂ = [] :=
    Cycle.deleted_eq_nil fun e he => (((keeps_afterDelete hr).of_ends after).1 e he).2
  rw [Cycle.deleted_append, spared]
  rfl

theorem deleted_of_ends_foldlM (hr : r.contribution.Aside)
    (h : (pods.foldlM s.remedy r).Ends log r') : Cycle.deleted log = pods := by
  induction pods generalizing r log with
  | nil =>
    obtain ⟨rfl, -⟩ := Program.ends_done_iff.1 h
    rfl
  | cons pod pods ih =>
    rw [List.foldlM_cons] at h
    obtain ⟨l₁, l₂, r₁, rfl, first, others⟩ := Program.ends_bind_iff.1 h
    rw [Cycle.deleted_append, deleted_of_ends_remedy hr first,
      ih ((keeps_remedy hr).of_ends first).2 others]
    rfl

end DriftSetting

/-- Drift deletes the lagging pods of the snapshot that it gets to see. -/
theorem deleted_of_ends_mitigateDrift {minReady : Span} {s : DriftSetting} {log : Cycle.Log}
    {contribution : Contribution} (h : (mitigateDrift minReady s).Ends log contribution) :
    Cycle.deleted log = [] ∨ ∃ items ∈ Cycle.snapshots log, Cycle.deleted log =
      s.lagging minReady items (deriveSyncInfo items s.fleet.status.syncInfo) := by
  obtain ⟨l₁, l₂, x, rfl, asked, after⟩ := Program.ends_bind_iff.1 h
  obtain ⟨now, answer, rfl, rfl⟩ := CycleContext.ends_bound_call_iff.1 asked
  rcases answer with e | items
  · left
    cases e <;> obtain ⟨rfl, -⟩ := Program.ends_done_iff.1 after <;> rfl
  · right
    refine ⟨items, List.mem_cons_self, ?_⟩
    obtain ⟨l₃, l₄, r, rfl, deleting, telling⟩ := Program.ends_bind_iff.1 after
    obtain ⟨l₅, l₆, u, rfl, told, done⟩ := Program.ends_bind_iff.1 telling
    obtain ⟨rfl, -⟩ := Program.ends_done_iff.1 done
    obtain rfl := Cycle.ends_announceAll_iff.1 told
    rw [Cycle.deleted_append, Cycle.deleted_append, Cycle.deleted_append, Cycle.deleted_telling,
      DriftSetting.deleted_of_ends_foldlM (Contribution.aside_setSyncInfo _) deleting]
    exact List.append_nil _

/-! ### The candidate -/

/-- Pruning takes out a pod of the snapshot that it gets to see. -/
theorem chosen_of_ends_prune {timing : PruningTiming} {f : Fleet} {spec : PruningSpec}
    {c : CycleContext} {now : Time} {log : Cycle.Log} {contribution : Contribution}
    {items : List StatusItem} {key : String} {candidate : Candidate} {since : Time}
    (h : (prune timing f spec c now).Ends log contribution) (sees : Cycle.Sees log items)
    (added : .addCandidate key candidate since ∈ contribution.patch) :
    ∃ usage pod, chooseCandidate spec (syncedPods items) usage = some pod ∧
      candidate = pod.asCandidate := by
  obtain ⟨l₁, l₂, r, rfl, asked, after⟩ := Program.ends_bind_iff.1 h
  cases r with
  | error e =>
    obtain ⟨-, rfl⟩ := Program.ends_done_iff.1 after
    cases added
  | ok step =>
    obtain ⟨l₃, l₄, u, rfl, told, done⟩ := Program.ends_bind_iff.1 after
    obtain ⟨-, rfl⟩ := Program.ends_done_iff.1 done
    obtain ⟨now', x, rest, rfl, bounded, hx⟩ := CycleContext.ends_withinDeadline_iff.1 asked
    rw [Cycle.raced_eq_ok_iff.1 hx.symm] at bounded
    obtain ⟨calls, hcalls, rfl⟩ := Cycle.ends_within_ok_iff.1 bounded
    obtain ⟨sight, rfl, rfl⟩ := ends_pruneStep_iff.1 hcalls
    obtain ⟨seen, usage, pod, hseen, choice, rfl⟩ := Sight.chosen_of_addCandidate added
    have shown := List.mem_map_of_mem (f := Cycle.awaited c.deadline) hseen
    obtain rfl : seen = items :=
      sees.eq (List.mem_append_left _ (List.mem_cons_of_mem _ shown)) rfl
    exact ⟨usage, pod, choice, rfl⟩

namespace Orchestrator

variable {o : Orchestrator} {key : FleetKey} {c : CycleContext} {f : Fleet} {heal : HealSpec}
  {now : Time} {log : Cycle.Log} {contribution : Contribution} {items : List StatusItem}

/-- A cycle deletes no pods, or those that lag in a snapshot that it gets to see. -/
theorem lagging_of_ends_evaluate (h : (o.evaluate f heal c now).Ends log contribution) :
    Cycle.deleted log = [] ∨ ∃ drift ∈ heal.drift, ∃ items ∈ Cycle.snapshots log,
      Cycle.deleted log = laggingPods o.settings.minReady items
        (deriveSyncInfo items f.status.syncInfo) drift f.spec.rollout f.spec.replicas now := by
  obtain ⟨l₁, l₂, l₃, pruned, scaled, mitigated, rfl, -, hpruned, hscaled, hmitigated⟩ :=
    ends_evaluate_iff.1 h
  have spared₁ : Cycle.deleted l₁ = [] := Cycle.deleted_eq_nil fun e he =>
    (((keeps_whenSet (.of_nil rfl) fun _ => keeps_prune).of_ends hpruned).1 e he).2
  have spared₂ : Cycle.deleted l₂ = [] := Cycle.deleted_eq_nil fun e he =>
    (((keeps_whenSet Contribution.aside_empty fun _ => keeps_autoscale).of_ends hscaled).1 e he).2
  rw [Cycle.deleted_append, Cycle.deleted_append, spared₁, spared₂]
  cases hd : heal.drift with
  | none =>
    rw [hd] at hmitigated
    obtain ⟨rfl, -⟩ := Program.ends_done_iff.1 hmitigated
    exact .inl rfl
  | some drift =>
    rw [hd] at hmitigated
    rcases deleted_of_ends_mitigateDrift hmitigated with none | ⟨items, hm, lags⟩
    · exact .inl none
    · refine .inr ⟨drift, rfl, items, ?_, lags⟩
      exact Cycle.mem_snapshots_of_subset (fun e he => List.mem_append_right (l₁ ++ l₂) he) hm

/-- A cycle deletes no pods but lagging ones, which are synced, and as many as the budget allows. -/
theorem deleted_of_ends_evaluate (h : (o.evaluate f heal c now).Ends log contribution)
    (sees : Cycle.Sees log items) :
    (Cycle.deleted log).Sublist (syncedPods items) ∧
      (Cycle.deleted log).length ≤ disruptionBudget f.spec.rollout.maxUnavailable f.spec.replicas
        (availablePods (syncedPods items) o.settings.minReady now).length := by
  rcases lagging_of_ends_evaluate h with none | ⟨drift, -, seen, hm, lags⟩
  · rw [none]
    exact ⟨List.nil_sublist _, Nat.zero_le _⟩
  · obtain rfl := sees seen hm
    rw [lags]
    exact ⟨laggingPods_sublist, length_laggingPods_le⟩

/-- A pod that a cycle takes out is synced, and as many others as have to remain are. -/
theorem chosen_of_ends_evaluate {spec : PruningSpec} (hspec : heal.pruning = some spec)
    (h : (o.evaluate f heal c now).Ends log contribution) (sees : Cycle.Sees log items)
    {k : String} {candidate : Candidate} {since : Time}
    (added : .addCandidate k candidate since ∈ contribution.patch) :
    (∃ pod ∈ syncedPods items, candidate = pod.asCandidate) ∧
      spec.keepAvailable.toNat + 1 ≤ (syncedPods items).length := by
  obtain ⟨l₁, l₂, l₃, pruned, scaled, mitigated, rfl, rfl, hpruned, hscaled, hmitigated⟩ :=
    ends_evaluate_iff.1 h
  have aside₂ := ((keeps_whenSet Contribution.aside_empty fun _ =>
    keeps_autoscale).of_ends hscaled).2
  have aside₃ := ((keeps_whenSet Contribution.aside_empty fun _ =>
    keeps_mitigateDrift).of_ends hmitigated).2
  -- The other evaluators leave the status of pruning alone.
  have mine : .addCandidate k candidate since ∈ pruned.patch := by
    rcases List.mem_append.1 added with hm | hm
    · rcases List.mem_append.1 hm with hm | hm
      · exact hm
      · cases aside₂.patch _ hm
    · cases aside₃.patch _ hm
  rw [hspec] at hpruned
  obtain ⟨usage, pod, choice, rfl⟩ := chosen_of_ends_prune hpruned
    (sees.mono fun e he => List.mem_append_left _ (List.mem_append_left _ he)) mine
  obtain ⟨hm, hlen⟩ := of_chooseCandidate choice
  exact ⟨⟨pod, hm, rfl⟩, hlen⟩

/-- **Availability.**  A pod that a cycle takes out for pruning is synced, and beside it as many
pods are synced as have to remain.  The pods that the same cycle deletes for drift are synced too,
and no more than the disruption budget; the candidate plays no part in their choice.  So beside the
candidate and the pods deleted, as many synced pods remain as have to, less the pods deleted. -/
theorem remaining_of_addCandidate {closing : Closing} {spec : PruningSpec} {k : String}
    {candidate : Candidate} {since : Time}
    (ends : (o.cycle key c).Ends log (.healed f contribution closing))
    (sees : Cycle.Sees log items) (hspec : f.spec.heal.bind (·.pruning) = some spec)
    (added : .addCandidate k candidate since ∈ contribution.patch) :
    (∃ pod ∈ syncedPods items, candidate = pod.asCandidate) ∧
      spec.keepAvailable.toNat + 1 ≤ (syncedPods items).length ∧
      (Cycle.deleted log).Sublist (syncedPods items) ∧
      (∃ now, ⟨.wallClock, now⟩ ∈ log ∧ (Cycle.deleted log).length ≤
        disruptionBudget f.spec.rollout.maxUnavailable f.spec.replicas
          (availablePods (syncedPods items) o.settings.minReady now).length) ∧
      (((syncedPods items).map Pod.asCandidate).Nodup →
        spec.keepAvailable.toNat ≤ (remaining items candidate (Cycle.deleted log)).length +
          ((Cycle.deleted log).filter fun p => p.asCandidate ≠ candidate).length) := by
  obtain ⟨heal, now, l, asked, looks, evaluated, hdeleted, hl⟩ := exists_evaluate_of_ends ends
  rw [asked] at hspec
  obtain ⟨hcandidate, enough⟩ := chosen_of_ends_evaluate hspec evaluated (sees.mono hl) added
  obtain ⟨sublist, budget⟩ := deleted_of_ends_evaluate evaluated (sees.mono hl)
  rw [← hdeleted] at sublist budget
  refine ⟨hcandidate, enough, sublist, ⟨now, looks, budget⟩, fun distinct => ?_⟩
  obtain ⟨pod, hm, rfl⟩ := hcandidate
  have hle := length_le_remaining (Cycle.deleted log) hm distinct
  omega

end Orchestrator

/-! ### A candidate beside a laggard

Three pods are synced and two have to remain.  One is taken out for pruning; of the other two, one
lags behind and is deleted. -/

namespace Laggard

def full : Pod := ⟨"osmosis-0", "default", 0, "pvc-osmosis-0", some ⟨0, false⟩, []⟩

def slow : Pod := ⟨"osmosis-1", "default", 1, "pvc-osmosis-1", some ⟨0, false⟩, []⟩

def sound : Pod := ⟨"osmosis-2", "default", 2, "pvc-osmosis-2", some ⟨0, false⟩, []⟩

def now : Time := ⟨1000000000000, false⟩

def items : List StatusItem :=
  [⟨full, some 100, some true, none, now⟩, ⟨slow, some 40, some true, none, now⟩,
    ⟨sound, some 100, some true, none, now⟩]

def pruning : PruningSpec := { trigger := 80, minAvailable := some 2 }

def drift : DriftSpec := { threshold := 50 }

def key : FleetKey := ⟨"default", "osmosis"⟩

def fleet : Fleet :=
  { key, version := 1
    spec := { replicas := 3, heal := some { pruning := some pruning, drift := some drift } } }

def orchestrator : Orchestrator := .ofSettings {}

def context : CycleContext := ⟨50000⟩

def timing : PruningTiming := orchestrator.settings.pruningTiming

def setting : DriftSetting := ⟨fleet, drift, context, orchestrator.settings.ioMillis, now⟩

/-- One volume is fuller than it may be. -/
def sight : Sight := ⟨some (.ok [⟨"pvc-osmosis-0", 85, default⟩]), some items, none⟩

def contribution : Contribution :=
  (sight.outcome timing fleet pruning now).contribution ++ {} ++
    { patch := [.setSyncInfo (deriveSyncInfo items ∅)] }

def stored : Fleet :=
  { fleet with status := contribution.patch.apply fleet.status, version := 2 }

/-- The reply to a call that is made when the cycle begins. -/
def replied (call : Call) (reply : call.Reply) : Cycle.Log :=
  context.replied orchestrator.settings.ioMillis 0 call reply

/-- What pruning asks and tells. -/
def pruned : Cycle.Log :=
  ⟨.clock, (0 : Nat)⟩ :: (sight.asked timing fleet).map (Cycle.awaited context.deadline) ++
    Cycle.telling key [.candidateFound "osmosis-0"]

/-- What drift asks and tells. -/
def mitigated : Cycle.Log :=
  replied (.collectStatus fleet) items ++ (replied (.deletePod slow) (.ok ()) ++
    Cycle.telling key [.podsDeletedForDrift 50 none 1])

def log : Cycle.Log :=
  replied (.readFleet key) (.ok (some fleet)) ++
    ([⟨.wallClock, now⟩] ++ (pruned ++ [] ++ mitigated) ++
      [⟨.shuttingDown, false⟩, ⟨.clock, (0 : Nat)⟩] ++
      ⟨.clock, (0 : Nat)⟩ ::
        Orchestrator.persisted key fleet stored contribution.patch context.deadline)

theorem ends_mitigated :
    (mitigateDrift orchestrator.settings.minReady setting).Ends mitigated
      { patch := [.setSyncInfo (deriveSyncInfo items ∅)] } := by
  have lags : setting.lagging orchestrator.settings.minReady items (deriveSyncInfo items ∅) =
      [slow] := by decide
  have remedied (r : Remediation) : (setting.remedy r slow).Ends
      (replied (.deletePod slow) (.ok ())) { r with deleted := r.deleted + 1 } :=
    DriftSetting.ends_remedy (.done _)
  exact ends_mitigateDrift lags
    (Program.ends_bind_iff.2 ⟨_, [], _, (List.append_nil _).symm, remedied _, .done _⟩)

theorem ends_log :
    (orchestrator.cycle key context).Ends log (.healed fleet contribution .stored) := by
  have evaluated : (orchestrator.evaluate fleet
      { pruning := some pruning, drift := some drift } context now).Ends
      (pruned ++ [] ++ mitigated) contribution :=
    Orchestrator.ends_evaluate_iff.2 ⟨pruned, [], mitigated, _, {}, _, rfl, rfl, ends_prune sight,
      .done _, ends_mitigated⟩
  have looked : context.isCancelled.Ends [⟨.shuttingDown, false⟩, ⟨.clock, (0 : Nat)⟩] false :=
    CycleContext.ends_isCancelled (by decide)
  have concluded : (orchestrator.conclude key context contribution).Ends
      (⟨.clock, (0 : Nat)⟩ ::
        Orchestrator.persisted key fleet stored contribution.patch context.deadline) .stored :=
    Orchestrator.ends_conclude rfl (by decide)
  exact Orchestrator.ends_cycle rfl
    (.concluded (Program.ends_put_iff.2 rfl) evaluated looked concluded)

theorem sees : Cycle.Sees log items := by
  have shown : Cycle.snapshots log = [items, items] := rfl
  rw [Cycle.Sees, shown]
  simp

theorem added : takeOut full now ∈ contribution.patch :=
  List.mem_append_left _ (List.mem_append_left _ (List.mem_cons_of_mem _ List.mem_cons_self))

theorem deleted_log : Cycle.deleted log = [slow] := rfl

end Laggard

open Laggard in
/-- The pods that remain fall short of those that have to by the one that is deleted. -/
theorem Orchestrator.remaining_of_addCandidate_laggard :
    (orchestrator.cycle key context).Ends log (.healed fleet contribution .stored) ∧
      Cycle.Sees log items ∧ fleet.spec.heal.bind (·.pruning) = some pruning ∧
      takeOut full now ∈ contribution.patch ∧
      pruning.keepAvailable.toNat ≤ (remaining items full.asCandidate (Cycle.deleted log)).length +
        ((Cycle.deleted log).filter fun p => p.asCandidate ≠ full.asCandidate).length := by
  obtain ⟨-, -, -, -, enough⟩ := remaining_of_addCandidate ends_log sees rfl added
  exact ⟨ends_log, sees, rfl, added, enough (by decide)⟩

open Laggard in
/-- **No more than that.**  With drift beside pruning, fewer synced pods may remain than have to. -/
theorem Orchestrator.candidate_beside_laggard :
    ¬∀ (o : Orchestrator) (key : FleetKey) (c : CycleContext) (log : Cycle.Log) (f : Fleet)
        (contribution : Contribution) (closing : Closing) (items : List StatusItem)
        (heal : HealSpec) (pruning : PruningSpec) (drift : DriftSpec) (k : String)
        (candidate : Candidate) (since : Time),
      (o.cycle key c).Ends log (.healed f contribution closing) → Cycle.Sees log items →
        f.spec.heal = some heal → heal.pruning = some pruning → heal.drift = some drift →
        .addCandidate k candidate since ∈ contribution.patch →
        pruning.keepAvailable.toNat ≤ (remaining items candidate (Cycle.deleted log)).length := by
  intro keeps
  have enough := keeps orchestrator key context log fleet contribution .stored items _ pruning drift
    _ _ _ ends_log sees rfl rfl rfl added
  have left : remaining items full.asCandidate (Cycle.deleted log) = [sound] := by
    rw [deleted_log]
    decide
  change 2 ≤ (remaining items full.asCandidate (Cycle.deleted log)).length at enough
  rw [left] at enough
  exact absurd enough (by decide)

end FleetMend
