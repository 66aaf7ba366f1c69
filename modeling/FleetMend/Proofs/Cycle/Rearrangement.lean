import FleetMend.Proofs.Cycle.Independence
import FleetMend.Proofs.Patch.Commutation

/-!
The order in which the changes of the evaluators stand in the patch of a cycle.

* `Target.owner`: every target is that of one evaluator.
* `Contribution.Owned`: all changes of a contribution aim at what is the evaluator's own.
  `owned_prune`, `owned_autoscale`, `owned_mitigateDrift`: so do those of the three evaluators.
* `Orchestrator.pairwise_apart`: so the patches of different evaluators are apart.
* `Orchestrator.evaluators_commute`: changes with different targets commute, and with them the
  evaluators of a cycle, each with its changes in their order.
-/

namespace FleetMend

/-! ### Owners -/

/-- The evaluator whose changes aim at this. -/
def Target.owner : Target → Evaluator
  | pruning => .pruning
  | resize _ => .volumes
  | syncInfo | failures _ => .drift

theorem StatusOp.owner_of_prunes {op : StatusOp} (h : op.prunes = true) :
    op.target.owner = .pruning := by
  cases op with
  | setPhase | addCandidate | clearSubstitution | clearCandidates => rfl
  | setSyncInfo | requestResize | recordFailure => cases h

/-- All changes aim at what is the evaluator's own. -/
def Contribution.Owned (a : Contribution) (e : Evaluator) : Prop :=
  ∀ op ∈ a.patch, op.target.owner = e

namespace Contribution

variable {a b : Contribution} {e : Evaluator}

theorem Owned.append (ha : a.Owned e) (hb : b.Owned e) : (a ++ b).Owned e :=
  List.forall_mem_append.2 ⟨ha, hb⟩

theorem owned_of_nil (h : a.patch = []) : a.Owned e := by
  rw [Owned, h]
  exact List.forall_mem_nil _

theorem owned_singleton {op : StatusOp} (h : op.target.owner = e) (actions : List Event) :
    ({ patch := [op], actions } : Contribution).Owned e :=
  List.forall_mem_singleton.2 h

end Contribution

/-! ### Evaluators -/

/-- The program ends in what satisfies `R`, whatever it asks. -/
abbrev Cycle.Yields {α : Type} (p : Cycle α) (R : α → Prop) : Prop := p.Keeps (fun _ => True) R

/-- What a program ends in is up to its last part, where that takes whatever comes before. -/
theorem Cycle.yields_bind {α β : Type} {p : Cycle α} {f : α → Cycle β} {R : β → Prop}
    (h : ∀ a, (f a).Yields R) : (p >>= f).Yields R := by
  have anything : p.Yields fun _ => True := .of_forall (fun _ => trivial) (fun _ => trivial) p
  exact anything.bind fun a _ => h a

theorem owned_prune {timing : PruningTiming} {f : Fleet} {spec : PruningSpec} {c : CycleContext}
    {now : Time} : (prune timing f spec c now).Yields (·.Owned .pruning) :=
  keeps_prune_patch.mono (fun _ h => h) fun _ h op hop => StatusOp.owner_of_prunes (h op hop)

theorem owned_autoscale {io : Nat} {f : Fleet} {spec : AutoscaleSpec} {c : CycleContext}
    {now : Time} : (autoscale io f spec c now).Yields (·.Owned .volumes) := by
  refine Cycle.yields_bind fun r => ?_
  cases r with
  | error e => exact Cycle.yields_bind fun _ => Contribution.owned_of_nil rfl
  | ok samples =>
    refine Cycle.yields_bind fun _ op hop => ?_
    obtain ⟨request, -, rfl⟩ := List.mem_map.1 hop
    rfl

namespace DriftSetting

variable {s : DriftSetting} {pod : Pod} {r : Remediation}

theorem owned_logFailure {tracker : Tracker} (hr : r.contribution.Owned .drift) :
    (s.logFailure tracker pod r).Yields (·.contribution.Owned .drift) := by
  unfold logFailure
  dsimp only
  split
  · refine Cycle.yields_bind fun x => ?_
    cases x with
    | error e => exact Cycle.yields_bind fun _ => hr.append (Contribution.owned_of_nil rfl)
    | ok u => exact hr.append (Contribution.owned_singleton rfl _)
  · exact hr.append (Contribution.owned_singleton rfl _)

theorem owned_afterDelete {x : Except ControlError Unit} (hr : r.contribution.Owned .drift) :
    (s.afterDelete r pod x).Yields (·.contribution.Owned .drift) := by
  unfold afterDelete
  cases ignoreNotFound x with
  | error e => exact Cycle.yields_bind fun _ => hr.append (Contribution.owned_of_nil rfl)
  | ok u =>
    cases s.spec.regenerate with
    | none => exact hr
    | some regenerate => exact owned_logFailure hr

theorem owned_remedy (hr : r.contribution.Owned .drift) :
    (s.remedy r pod).Yields (·.contribution.Owned .drift) :=
  Cycle.yields_bind fun _ => owned_afterDelete hr

end DriftSetting

theorem owned_mitigateDrift {minReady : Span} {s : DriftSetting} :
    (mitigateDrift minReady s).Yields (·.Owned .drift) := by
  refine Cycle.yields_bind fun x => ?_
  cases x with
  | error e => exact Contribution.owned_of_nil rfl
  | ok items =>
    have remedied (start : Remediation) (hs : start.contribution.Owned .drift) (pods : List Pod) :
        (pods.foldlM s.remedy start).Yields (·.contribution.Owned .drift) :=
      Program.Keeps.foldlM pods (fun _ _ => DriftSetting.owned_remedy) hs
    exact (remedied _ (Contribution.owned_singleton rfl _) _).bind fun r hr =>
      Cycle.yields_bind fun _ => hr

namespace Orchestrator

variable {o : Orchestrator} {key : FleetKey} {f : Fleet} {c : CycleContext} {now : Time}
  {log : Cycle.Log} {a : Contribution} {share : Evaluator → Contribution}

/-- An evaluator changes what is its own. -/
theorem Adds.owned {e : Evaluator} (h : o.Adds f c now e log a) : a.Owned e := by
  obtain ⟨heal, l, -, -, -, ends⟩ := h
  have idle : ({} : Contribution).Owned e := Contribution.owned_of_nil rfl
  cases e with
  | pruning => exact ((keeps_whenSet idle fun _ => owned_prune).of_ends ends).2
  | volumes => exact ((keeps_whenSet idle fun _ => owned_autoscale).of_ends ends).2
  | drift => exact ((keeps_whenSet idle fun _ => owned_mitigateDrift).of_ends ends).2

/-- The patches of different evaluators are apart. -/
theorem pairwise_apart {order : List Evaluator} (adds : ∀ e, o.Adds f c now e log (share e))
    (distinct : order.Nodup) : (order.map fun e => (share e).patch).Pairwise Patch.Apart := by
  refine List.pairwise_map.2 (distinct.imp fun {e e'} other a ha b hb same => other ?_)
  rw [← (adds e).owned a ha, ← (adds e').owned b hb, same]

/-- **In any order.**  Two changes with different targets may be made in either order: the status is
the same, and so is the answer of each; a change leaves everything outside its own target as it is.
So the changes of a cycle may be made in any order of its evaluators, those of each in their own
order, in whatever status: the status that comes of them is the same, and the changes of each
evaluator answer as they would alone. -/
theorem evaluators_commute :
    (∀ (a b : StatusOp) (s : FleetStatus), a.target ≠ b.target →
      (b.apply (a.apply s).1).1 = (a.apply (b.apply s).1).1 ∧
        (a.apply (b.apply s).1).2 = (a.apply s).2 ∧ (b.apply (a.apply s).1).2 = (b.apply s).2) ∧
    (∀ (a : StatusOp) (s : FleetStatus) (l : Location), l.target ≠ a.target →
      l.content (a.apply s).1 = l.content s) ∧
    ∀ {o : Orchestrator} {key : FleetKey} {c : CycleContext} {log : Cycle.Log} {f : Fleet}
        {added : Contribution} {closing : Closing},
      (o.cycle key c).Ends log (.healed f added closing) →
        ∃ share now, ⟨.wallClock, now⟩ ∈ log ∧ added = .sum share ∧
          (∀ e, o.Adds f c now e log (share e)) ∧
          ∀ order : List Evaluator, order.Perm [.pruning, .volumes, .drift] → ∀ s : FleetStatus,
            Patch.apply (order.flatMap fun e => (share e).patch) s = added.patch.apply s ∧
              Patch.answers (order.flatMap fun e => (share e).patch) s =
                order.flatMap fun e => (share e).patch.answers s := by
  refine ⟨fun a b s other => ⟨StatusOp.apply_comm other, StatusOp.answer_of_target_ne other.symm,
    StatusOp.answer_of_target_ne other⟩, fun _ _ _ => StatusOp.content_of_target_ne, ?_⟩
  intro o key c log f added closing ends
  obtain ⟨share, now, looks, rfl, adds⟩ := exists_shares ends
  refine ⟨share, now, looks, rfl, adds, fun order perm s => ?_⟩
  have apart := pairwise_apart adds (perm.nodup_iff.2 (by decide))
  have summed : (Contribution.sum share).patch =
      ([.pruning, .volumes, .drift].map fun e => (share e).patch).flatten := by
    simp [Contribution.sum]
  constructor
  · rw [summed, List.flatMap_def]
    exact Patch.apply_flatten_perm (perm.map _) apart
  · rw [List.flatMap_def, Patch.answers_flatten apart, List.map_map]
    rfl

end Orchestrator

/-! ### Three evaluators at once

One of three pods is taken out for pruning, its volume is to grow, and another of the pods lags
behind, is deleted, and has its first failure logged. -/

namespace Concert

open Laggard (key context orchestrator now timing pruning slow items replied)

def autoscale : AutoscaleSpec := { trigger := 80, increase := "20%" }

def drift : DriftSpec := { threshold := 50, regenerate := some ⟨.ofSecs 300, 2⟩ }

def heal : HealSpec :=
  { pruning := some pruning, autoscale := some autoscale, drift := some drift }

def fleet : Fleet := { key, version := 1, spec := { replicas := 3, heal := some heal } }

def setting : DriftSetting := ⟨fleet, drift, context, orchestrator.settings.ioMillis, now⟩

def usage : List DiskUsage := [⟨"pvc-osmosis-0", 85, ⟨1000, .decimal⟩⟩]

def sight : Sight := ⟨some (.ok usage), some items, none⟩

def step : StepOutcome := sight.outcome timing fleet pruning now

def plan : ResizePlan := planResizes usage autoscale ∅ now

def failure : StatusOp := .recordFailure "osmosis-1" now ⟨.ofSecs 300, 2⟩

def contribution : Contribution :=
  step.contribution ++ plan.contribution ++
    { patch := [.setSyncInfo (deriveSyncInfo items ∅), failure] }

def stored : Fleet :=
  { fleet with status := contribution.patch.apply fleet.status, version := 2 }

/-- What pruning asks and tells. -/
def pruned : Cycle.Log :=
  ⟨.clock, (0 : Nat)⟩ :: (sight.asked timing fleet).map (Cycle.awaited context.deadline) ++
    Cycle.telling key step.events

/-- What is asked and told about the volumes. -/
def scaled : Cycle.Log :=
  replied (.collectUsage fleet) (.ok usage) ++ Cycle.telling key plan.events

/-- What drift asks and tells. -/
def mitigated : Cycle.Log :=
  replied (.collectStatus fleet) items ++ (replied (.deletePod slow) (.ok ()) ++
    Cycle.telling key [.podsDeletedForDrift 50 none 1])

def log : Cycle.Log :=
  replied (.readFleet key) (.ok (some fleet)) ++
    ([⟨.wallClock, now⟩] ++ (pruned ++ scaled ++ mitigated) ++
      [⟨.shuttingDown, false⟩, ⟨.clock, (0 : Nat)⟩] ++
      (⟨.clock, (0 : Nat)⟩ ::
        Orchestrator.persisted key fleet stored contribution.patch context.deadline ++
        Cycle.telling key contribution.actions))

theorem ends_mitigated :
    (mitigateDrift orchestrator.settings.minReady setting).Ends mitigated
      { patch := [.setSyncInfo (deriveSyncInfo items ∅), failure] } := by
  have lags : setting.lagging orchestrator.settings.minReady items (deriveSyncInfo items ∅) =
      [slow] := by decide
  have remedied : (setting.remedy
      { working := fleet.status
        contribution := { patch := [.setSyncInfo (deriveSyncInfo items ∅)] } } slow).Ends
      (replied (.deletePod slow) (.ok ()))
      { working := (failure.apply fleet.status).1
        deleted := 1
        contribution := { patch := [.setSyncInfo (deriveSyncInfo items ∅), failure] } } :=
    DriftSetting.ends_remedy (.done _)
  exact ends_mitigateDrift lags
    (Program.ends_bind_iff.2 ⟨_, [], _, (List.append_nil _).symm, remedied, .done _⟩)

theorem ends_log :
    (orchestrator.cycle key context).Ends log (.healed fleet contribution .stored) := by
  have evaluated : (orchestrator.evaluate fleet heal context now).Ends
      (pruned ++ scaled ++ mitigated) contribution :=
    Orchestrator.ends_evaluate_iff.2 ⟨pruned, scaled, mitigated, _, _, _, rfl, rfl,
      ends_prune sight, ends_autoscale, ends_mitigated⟩
  have looked : context.isCancelled.Ends [⟨.shuttingDown, false⟩, ⟨.clock, (0 : Nat)⟩] false :=
    CycleContext.ends_isCancelled (by decide)
  have concluded : (orchestrator.conclude key context contribution).Ends
      (⟨.clock, (0 : Nat)⟩ ::
        Orchestrator.persisted key fleet stored contribution.patch context.deadline ++
        Cycle.telling key contribution.actions) .stored :=
    Orchestrator.ends_conclude rfl (by decide +kernel)
  exact Orchestrator.ends_cycle rfl
    (.concluded (Program.ends_put_iff.2 rfl) evaluated looked concluded)

end Concert

open Laggard (key context orchestrator now full) in
open Concert in
/-- All three evaluators have changes, and those of drift may come first. -/
theorem Orchestrator.evaluators_commute_concert :
    (takeOut full now).target ≠ failure.target ∧
      (∀ s, (failure.apply ((takeOut full now).apply s).1).1 =
        ((takeOut full now).apply (failure.apply s).1).1) ∧
      Location.syncInfo.target ≠ failure.target ∧
      (∀ s, Location.syncInfo.content (failure.apply s).1 = Location.syncInfo.content s) ∧
      (orchestrator.cycle key context).Ends log (.healed fleet contribution .stored) ∧
      contribution.patch.map (·.target) =
        [.pruning, .pruning, .pruning, .resize "pvc-osmosis-0", .syncInfo,
          .failures "osmosis-1"] ∧
      [Evaluator.drift, .pruning, .volumes].Perm [.pruning, .volumes, .drift] ∧
      ∃ share : Evaluator → Contribution, contribution = .sum share ∧
        ∀ s : FleetStatus,
          Patch.apply ([Evaluator.drift, .pruning, .volumes].flatMap fun e => (share e).patch) s =
            contribution.patch.apply s := by
  obtain ⟨pairs, outside, cycles⟩ := evaluators_commute
  have different : (takeOut full now).target ≠ failure.target := by decide
  have other : Location.syncInfo.target ≠ failure.target := by decide
  have perm : [Evaluator.drift, .pruning, .volumes].Perm [.pruning, .volumes, .drift] := by decide
  obtain ⟨share, t, -, hsum, -, orders⟩ := cycles ends_log
  exact ⟨different, fun s => (pairs _ _ s different).1, other, fun s => outside _ s _ other,
    ends_log, by decide +kernel, perm, share, hsum, fun s => (orders _ perm s).1⟩

end FleetMend
