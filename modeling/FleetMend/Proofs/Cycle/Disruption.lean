import FleetMend.Proofs.Cycle.Atomicity
import FleetMend.Proofs.Cycle.Availability

/-!
What a cycle takes down.

* `Orchestrator.read_of_ends`: the fleet that a cycle heals has been read by it.
* `Orchestrator.lagging_of_ends_reconcile`: a cycle deletes the pods that lag in its snapshot, in
  their order, whatever comes of a deletion; or none.
* `Orchestrator.tolerated_reconcile`: what lags is few enough for the disruption policy, and a cycle
  deletes nothing else.
-/

namespace FleetMend

/-- The pods that lag in a snapshot which a cycle has seen, as the fleet stands that it has read. -/
def Orchestrator.Lags (o : Orchestrator) (key : FleetKey) (log : Cycle.Log) (pods : List Pod) :
    Prop :=
  ∃ f drift now, Cycle.Read log key f ∧ f.spec.heal.bind (·.drift) = some drift ∧
    ⟨.wallClock, now⟩ ∈ log ∧ ∃ items ∈ Cycle.snapshots log,
      pods = laggingPods o.settings.minReady items (deriveSyncInfo items f.status.syncInfo) drift
        f.spec.rollout f.spec.replicas now

namespace Orchestrator

section

variable {o : Orchestrator} {key : FleetKey} {c : CycleContext} {log : Cycle.Log} {f : Fleet}
  {contribution : Contribution} {closing : Closing}

/-- A fleet that is healed has been read. -/
theorem read_of_ends (h : (o.cycle key c).Ends log (.healed f contribution closing)) :
    Cycle.Read log key f := by
  obtain ⟨l₁, rest, heal, rfl, read, asked, heals⟩ := heals_of_ends_cycle h
  obtain ⟨now, asked, rfl, answered⟩ := CycleContext.ends_run_ok_iff.1 read
  rw [Cycle.ends_within_call_iff.1 answered]
  exact ⟨_, List.mem_append_left _ (List.mem_cons_of_mem _ List.mem_cons_self)⟩

/-- A cycle deletes the pods that lag in its snapshot, one after the other, or none. -/
theorem lagging_of_ends_reconcile {outcome : Outcome} (h : (o.reconcile key c).Ends log outcome) :
    Cycle.deleted log = [] ∨ o.Lags key log (Cycle.deleted log) := by
  obtain ⟨report, cycled, -⟩ := Program.ends_map_iff.1 h
  cases report with
  | healed f contribution closing =>
    obtain ⟨heal, now, l, asked, looks, evaluated, hdeleted, hl⟩ := exists_evaluate_of_ends cycled
    rcases lagging_of_ends_evaluate evaluated with none | ⟨drift, hdrift, items, hm, lags⟩
    · exact .inl (hdeleted.trans none)
    · exact .inr ⟨f, drift, now, read_of_ends cycled, by rw [asked]; exact hdrift, looks, items,
        Cycle.mem_snapshots_of_subset hl hm, hdeleted.trans lags⟩
  | unread | idle =>
    left
    cases reports_of_ends cycled with
    | still read =>
      exact Cycle.deleted_eq_nil fun e he => ((keeps_readFleet.of_ends read).1 e he).2

end

/-- **Disruption.**  Whatever the snapshot, the settings and the time, the pods that lag are few
enough for the disruption policy; and a cycle deletes those that lag in its snapshot, in their
order, or none at all, whatever the deletions come to. -/
theorem tolerated_reconcile :
    (∀ (minReady : Span) (items : List StatusItem) (info : SortedMap String SyncInfo)
        (spec : DriftSpec) (rollout : RolloutStrategy) (desired : UInt32) (now : Time),
      Tolerated (laggingPods minReady items info spec rollout desired now)
        ((syncedItems items).countP (·.pod.isAvailable minReady now))
        (allowedUnavailable rollout.maxUnavailable desired) desired) ∧
      ∀ (o : Orchestrator) (key : FleetKey) (c : CycleContext) (log : Cycle.Log)
        (outcome : Outcome), (o.reconcile key c).Ends log outcome →
          Cycle.deleted log = [] ∨ o.Lags key log (Cycle.deleted log) :=
  ⟨fun _ _ _ _ _ _ _ => tolerated_laggingPods, fun _ _ _ _ _ => lagging_of_ends_reconcile⟩

open Laggard in
/-- Of three pods one may be unavailable, and one is deleted. -/
theorem tolerated_reconcile_laggard :
    (orchestrator.reconcile key context).Ends log
        (orchestrator.outcome (.healed fleet contribution .stored)) ∧
      orchestrator.Lags key log [slow] ∧
      Tolerated (laggingPods orchestrator.settings.minReady items (deriveSyncInfo items ∅) drift
        fleet.spec.rollout fleet.spec.replicas now) 3 1 3 := by
  have ends : (orchestrator.reconcile key context).Ends log _ :=
    Program.ends_map_iff.2 ⟨_, ends_log, rfl⟩
  obtain ⟨policy, deletes⟩ := tolerated_reconcile
  refine ⟨ends, (deletes _ _ _ _ _ ends).resolve_left ?_, policy _ _ _ _ _ 3 _⟩
  rw [deleted_log]
  exact List.cons_ne_nil _ _

end Orchestrator

end FleetMend
