import FleetMend.Cycle.Reconcile
import FleetMend.Proofs.Cycle.Course
import FleetMend.Proofs.Pruning.Advance

/-!
The evaluators only prepare: they write no status, and leave what announces their changes to be
told later.

* `Event.isHeld`: the event announces changes that are to be stored first.
* `Cycle.held`, `Cycle.deleted`: what a log has told of such changes, and the pods that it has asked
  to delete.
* `Query.Preliminary`, `Query.Sparing`: the question neither writes a status nor tells such an
  event, and deletes no pod either.
* `Orchestrator.keeps_evaluate`: the evaluators ask nothing but preliminary questions, and hold back
  all that announces their changes.  Only drift deletes pods, and only pruning changes the status of
  pruning.
-/

namespace FleetMend

/-- The event announces changes that are to be stored first. -/
def Event.isHeld : Event → Bool
  | resizeRequested _ | claimRegenerating .. => true
  | _ => false

/-- The pod that a call deletes. -/
def Call.deletes? : Call → Option Pod
  | deletePod pod => some pod
  | _ => none

def Request.deletes? : Request → Option Pod
  | call c | callWithin c _ => c.deletes?
  | pause .. => none

namespace Query

/-- The pod that the question waits to be deleted. -/
def deletes? : Query → Option Pod
  | await r _ => r.deletes?
  | _ => none

/-- The question tells of changes that were to be stored first. -/
def tells : Query → Bool
  | announce _ event => event.isHeld
  | _ => false

/-- The question neither writes a status nor tells of changes that were to be stored first. -/
def Preliminary (q : Query) : Prop := q.writes = false ∧ q.tells = false

/-- The question is preliminary and deletes no pod. -/
def Sparing (q : Query) : Prop := q.Preliminary ∧ q.deletes? = none

theorem sparing_announce {key : FleetKey} {event : Event} (h : event.isHeld = false) :
    (announce key event).Sparing := ⟨⟨rfl, h⟩, rfl⟩

end Query

/-- The change is about pruning. -/
def StatusOp.prunes : StatusOp → Bool
  | setPhase _ | addCandidate .. | clearSubstitution _ | clearCandidates => true
  | setSyncInfo _ | requestResize .. | recordFailure .. => false

namespace Cycle

/-- The pods that a log has asked to delete, in order. -/
def deleted (log : Cycle.Log) : List Pod := log.filterMap (·.1.deletes?)

theorem deleted_append (log₁ log₂ : Cycle.Log) :
    deleted (log₁ ++ log₂) = deleted log₁ ++ deleted log₂ :=
  List.filterMap_append

theorem deleted_eq_nil {log : Cycle.Log} (h : ∀ e ∈ log, e.1.deletes? = none) :
    deleted log = [] :=
  List.filterMap_eq_nil_iff.2 h

/-- The events that a log has told, in order. -/
def told (log : Cycle.Log) : List (FleetKey × Event) :=
  log.filterMap fun
    | ⟨.announce key event, _⟩ => some (key, event)
    | _ => none

/-- What a log has told of changes that were to be stored first. -/
def held (log : Cycle.Log) : List (FleetKey × Event) := (told log).filter (·.2.isHeld)

theorem told_append (log₁ log₂ : Cycle.Log) : told (log₁ ++ log₂) = told log₁ ++ told log₂ :=
  List.filterMap_append

/-- The questions that tell these events. -/
def telling (key : FleetKey) (events : List Event) : Cycle.Log :=
  events.map fun event => ⟨.announce key event, ()⟩

theorem ends_announceAll_iff {key : FleetKey} {events : List Event} {log : Cycle.Log} {u : Unit} :
    (announceAll key events).Ends log u ↔ log = telling key events := by
  induction events generalizing log with
  | nil => exact Program.ends_done_iff.trans (and_iff_left rfl)
  | cons event events ih =>
    refine Program.ends_ask_iff.trans ⟨?_, ?_⟩
    · rintro ⟨x, rest, rfl, hrest⟩
      rw [ih.1 hrest]
      rfl
    · rintro rfl
      exact ⟨(), _, rfl, ih.2 rfl⟩

theorem told_telling (key : FleetKey) (events : List Event) :
    told (telling key events) = events.map (key, ·) := by
  rw [told, telling, List.filterMap_map]
  exact congrFun List.filterMap_eq_map events

theorem not_writes_of_mem_telling {key : FleetKey} {events : List Event} :
    ∀ e ∈ telling key events, e.1.writes = false := by
  intro e he
  obtain ⟨event, -, rfl⟩ := List.mem_map.1 he
  rfl

theorem deleted_telling (key : FleetKey) (events : List Event) :
    deleted (telling key events) = [] := by
  refine deleted_eq_nil fun e he => ?_
  obtain ⟨event, -, rfl⟩ := List.mem_map.1 he
  rfl

theorem held_append (log₁ log₂ : Cycle.Log) : held (log₁ ++ log₂) = held log₁ ++ held log₂ := by
  rw [held, told_append, List.filter_append]
  rfl

theorem held_eq_nil {log : Cycle.Log} (h : ∀ e ∈ log, e.1.tells = false) : held log = [] := by
  refine List.filter_eq_nil_iff.2 fun e he => ?_
  obtain ⟨⟨q, a⟩, hm, hq⟩ := List.mem_filterMap.1 he
  cases q with
  | announce key event =>
    cases hq
    exact Bool.eq_false_iff.1 (h _ hm)
  | await | clock | wallClock | shuttingDown => cases hq

end Cycle

/-! ### Errands -/

/-- The errand writes no status and deletes no pod. -/
abbrev Errand.Spares {α : Type} (errand : Errand α) : Prop :=
  errand.Keeps (fun r => r.writes = false ∧ r.deletes? = none) fun _ => True

namespace Errand

variable {α : Type} {errand : Errand α}

theorem spares_call {c : Call} (hw : c.writes = false) (hd : c.deletes? = none) :
    (call c).Spares := ⟨⟨hw, hd⟩, fun _ => trivial⟩

theorem Spares.await (h : errand.Spares) (limit : Nat) :
    errand.Keeps (fun r => (Query.await r limit).Sparing) fun _ => True :=
  h.mono (fun _ hr => ⟨⟨hr.1, rfl⟩, hr.2⟩) fun _ _ => trivial

end Errand

/-! ### Steps of pruning -/

/-- The call looks at the cluster and leaves it as it is. -/
def Call.looks : Call → Bool
  | readFleet _ | collectStatus _ | collectUsage _ | listPods _ | readClaim .. => true
  | writeStatus .. | deletePod _ | deleteClaim _ => false

section Steps

variable {P : Request → Prop} {timeout : Nat} {f : Fleet}
  (h : ∀ call millis, call.looks = true → P (.callWithin call millis))

include h

theorem keeps_listPods : (listPods timeout f).Keeps P fun _ => True := by
  rw [listPods_eq]
  exact (Program.Keeps.put (h _ _ rfl)).map

theorem keeps_collectUsage : (collectUsage timeout f).Keeps P fun _ => True := by
  rw [collectUsage_eq]
  exact (Program.Keeps.put (h _ _ rfl)).map

theorem keeps_findCandidate {spec : PruningSpec} {usage : List DiskUsage} :
    (findCandidate timeout f spec usage).Keeps P fun _ => True := by
  rw [findCandidate_eq]
  exact (Program.Keeps.put (h _ _ rfl)).map

theorem keeps_judgeListed {α : Type} {verdict : PruningStatus → List Pod → Except PruneError α} :
    (judgeListed timeout f verdict).Keeps P fun _ => True := by
  unfold judgeListed
  cases f.registered with
  | error e => trivial
  | ok s =>
    refine (keeps_listPods h).bind fun r _ => ?_
    cases r <;> trivial

/-- A step of pruning only looks, and gives its calls up after a time. -/
theorem keeps_pruneStep {timing : PruningTiming} {spec : PruningSpec} {now : Time} :
    (pruneStep timing f spec now).Keeps P fun _ => True := by
  unfold pruneStep
  cases f.status.pruningPhase with
  | findingCandidate =>
    refine (keeps_collectUsage h).bind fun r _ => ?_
    cases r with
    | error e => trivial
    | ok usage => exact (keeps_findCandidate h).map
  | waitingForPodReplaced | waitingForComplete | confirmPodRestoration =>
    exact (keeps_judgeListed h).map
  | restoringPod => trivial

end Steps

theorem spares_pruneStep {timing : PruningTiming} {f : Fleet} {spec : PruningSpec} {now : Time} :
    (pruneStep timing f spec now).Spares :=
  keeps_pruneStep fun call _ looks => by cases call <;> first | exact ⟨rfl, rfl⟩ | cases looks

/-! ### Contributions -/

namespace Contribution

/-- What an evaluator announces with its changes is held back. -/
def HoldsBack (c : Contribution) : Prop := ∀ e ∈ c.actions, e.isHeld = true

/-- A contribution that holds back, and leaves the status of pruning alone. -/
structure Aside (c : Contribution) : Prop where
  back : c.HoldsBack
  patch : ∀ op ∈ c.patch, op.prunes = false

variable {a b : Contribution}

theorem HoldsBack.of_nil (h : a.actions = []) : a.HoldsBack := by
  intro e he
  rw [h] at he
  cases he

theorem HoldsBack.append (ha : a.HoldsBack) (hb : b.HoldsBack) : (a ++ b).HoldsBack := by
  rw [HoldsBack, actions_append]
  exact List.forall_mem_append.2 ⟨ha, hb⟩

theorem Aside.append (ha : a.Aside) (hb : b.Aside) : (a ++ b).Aside := by
  refine ⟨ha.back.append hb.back, ?_⟩
  rw [patch_append]
  exact List.forall_mem_append.2 ⟨ha.patch, hb.patch⟩

theorem aside_empty : ({} : Contribution).Aside :=
  ⟨.of_nil rfl, fun _ h => absurd h List.not_mem_nil⟩

theorem aside_setSyncInfo (info : SortedMap String SyncInfo) :
    ({ patch := [.setSyncInfo info] } : Contribution).Aside :=
  ⟨.of_nil rfl, fun _ h => by rw [List.mem_singleton.1 h]; rfl⟩

theorem aside_failed (e : ControlError) : (failed e).Aside :=
  ⟨.of_nil rfl, fun _ h => absurd h List.not_mem_nil⟩

end Contribution

/-! ### Evaluators -/

/-- Pruning tells what a step comes to at once, which no change of a cycle waits for. -/
theorem Advance.not_held {f : Fleet} {patch : Patch} {events : List Event}
    (a : Advance f patch events) : ∀ e ∈ events, e.isHeld = false := by
  cases a with
  | stays told =>
    intro e he
    have hw := (told e he).1
    cases e <;> first | rfl | cases hw
  | _ => simp [Event.isHeld]

theorem keeps_prune {timing : PruningTiming} {f : Fleet} {spec : PruningSpec} {c : CycleContext}
    {now : Time} : (prune timing f spec c now).Keeps Query.Sparing Contribution.HoldsBack := by
  have told : ∀ log step, (pruneStep timing f spec now).Ends log step →
      ∀ e ∈ step.events, e.isHeld = false := fun _ _ h => (Advance.of_ends h).not_held
  refine (CycleContext.keeps_withinDeadline ⟨⟨rfl, rfl⟩, rfl⟩
    spares_pruneStep.await told).bind fun r hr => ?_
  cases r with
  | error e => exact .of_nil rfl
  | ok step =>
    refine (Cycle.keeps_announceAll fun e he =>
      Query.sparing_announce (hr step rfl e he)).bind fun _ _ => ?_
    exact .of_nil rfl

theorem ResizePlan.aside (p : ResizePlan) : p.contribution.Aside := by
  constructor
  · intro e he
    simp only [contribution, actions] at he
    split at he
    · cases he
    · rw [List.mem_singleton.1 he]
      rfl
  · intro op hop
    obtain ⟨request, -, rfl⟩ := List.mem_map.1 hop
    rfl

theorem keeps_autoscale {io : Nat} {f : Fleet} {spec : AutoscaleSpec} {c : CycleContext}
    {now : Time} : (autoscale io f spec c now).Keeps Query.Sparing Contribution.Aside := by
  have spares : (readUsage f).Spares := (Errand.spares_call rfl rfl).map
  refine (CycleContext.keeps_run ⟨⟨rfl, rfl⟩, rfl⟩ spares.await).bind fun r _ => ?_
  cases r with
  | error e =>
    refine (Program.Keeps.put (Query.sparing_announce rfl)).bind fun _ _ => ?_
    exact Contribution.aside_failed e
  | ok samples =>
    refine (Cycle.keeps_announceAll fun e he => ?_).bind fun _ _ => ResizePlan.aside _
    unfold ResizePlan.events at he
    split at he
    · cases he
    · rw [List.mem_singleton.1 he]
      exact Query.sparing_announce rfl

namespace DriftSetting

variable {s : DriftSetting} {pod : Pod} {r : Remediation}

theorem keeps_regenerateClaim : (s.regenerateClaim pod).Keeps Query.Sparing fun _ => True := by
  have sparesRead := Errand.spares_call (c := .readClaim pod.space pod.claim) rfl rfl
  refine (CycleContext.keeps_run ⟨⟨rfl, rfl⟩, rfl⟩ sparesRead.await).bind fun r _ => ?_
  rcases r with e | _ | claim
  · trivial
  · trivial
  · have sparesDelete := Errand.spares_call (c := .deleteClaim claim) rfl rfl
    exact (CycleContext.keeps_run ⟨⟨rfl, rfl⟩, rfl⟩ sparesDelete.await).map

/-- A failure that is logged adds a change that is none of pruning's. -/
theorem aside_logged {pod : String} {time : Time} {tracker : Tracker} {status : FleetStatus}
    {actions : List Event} (hr : r.contribution.Aside) (ha : ∀ e ∈ actions, e.isHeld = true) :
    (r.logged (.recordFailure pod time tracker) status actions).contribution.Aside :=
  hr.append ⟨ha, fun _ h => by rw [List.mem_singleton.1 h]; rfl⟩

theorem keeps_logFailure {tracker : Tracker} (hr : r.contribution.Aside) :
    (s.logFailure tracker pod r).Keeps Query.Sparing fun r => r.contribution.Aside := by
  unfold logFailure
  dsimp only
  split
  · refine keeps_regenerateClaim.bind fun x _ => ?_
    cases x with
    | error e =>
      refine (Program.Keeps.put (Query.sparing_announce rfl)).bind fun _ _ => ?_
      exact hr.append (Contribution.aside_failed e)
    | ok u => exact aside_logged hr fun _ h => by rw [List.mem_singleton.1 h]; rfl
  · exact aside_logged hr fun _ h => absurd h List.not_mem_nil

/-- What a deletion is followed by. -/
theorem keeps_afterDelete {x : Except ControlError Unit} (hr : r.contribution.Aside) :
    (s.afterDelete r pod x).Keeps Query.Sparing fun r => r.contribution.Aside := by
  unfold afterDelete
  cases ignoreNotFound x with
  | error e =>
    refine (Program.Keeps.put (Query.sparing_announce rfl)).bind fun _ _ => ?_
    exact hr.append (Contribution.aside_failed e)
  | ok u =>
    cases s.spec.regenerate with
    | none => exact hr
    | some regenerate => exact keeps_logFailure hr

theorem keeps_remedy (hr : r.contribution.Aside) :
    (s.remedy r pod).Keeps Query.Preliminary fun r => r.contribution.Aside := by
  have asks : ∀ limit, (Errand.call (.deletePod pod)).Keeps
      (fun r => (Query.await r limit).Preliminary) fun _ => True :=
    fun _ => ⟨⟨rfl, rfl⟩, fun _ => trivial⟩
  exact (CycleContext.keeps_run ⟨rfl, rfl⟩ asks).bind fun x _ =>
    (keeps_afterDelete hr).mono (fun _ h => h.1) fun _ h => h

end DriftSetting

theorem keeps_mitigateDrift {minReady : Span} {s : DriftSetting} :
    (mitigateDrift minReady s).Keeps Query.Preliminary Contribution.Aside := by
  have spares := Errand.spares_call (c := .collectStatus s.fleet) rfl rfl
  refine (CycleContext.keeps_bound ⟨rfl, rfl⟩ fun limit =>
    (spares.await limit).mono (fun _ h => h.1) fun _ h => h).bind fun x _ => ?_
  cases x with
  | error e => exact Contribution.aside_failed e
  | ok items =>
    refine (Program.Keeps.foldlM _ (fun _ _ => DriftSetting.keeps_remedy)
      (Contribution.aside_setSyncInfo _)).bind fun r hr => ?_
    refine (Cycle.keeps_announceAll fun e he => ?_).bind fun _ _ => hr
    unfold DriftSetting.summary at he
    split at he
    · cases he
    · rw [List.mem_singleton.1 he]
      exact (Query.sparing_announce rfl).1

namespace Orchestrator

variable {o : Orchestrator}

theorem keeps_whenSet {α : Type} {P : Query → Prop} {R : Contribution → Prop} {spec : Option α}
    {evaluate : α → Cycle Contribution} (hR : R {}) (h : ∀ a, (evaluate a).Keeps P R) :
    (whenSet spec evaluate).Keeps P R := by
  cases spec with
  | none => exact hR
  | some a => exact h a

/-- **Preparation.**  The evaluators write no status, and hold back what announces their changes,
whatever they get to see. -/
theorem keeps_evaluate {f : Fleet} {heal : HealSpec} {c : CycleContext} {now : Time} :
    (o.evaluate f heal c now).Keeps Query.Preliminary Contribution.HoldsBack :=
  (keeps_whenSet (.of_nil rfl) fun _ => keeps_prune.mono (fun _ h => h.1) fun _ h => h).bind
    fun _ pruned =>
  (keeps_whenSet Contribution.aside_empty fun _ =>
    keeps_autoscale.mono (fun _ h => h.1) fun _ h => h).bind fun _ scaled =>
  (keeps_whenSet Contribution.aside_empty fun _ => keeps_mitigateDrift).bind fun _ mitigated =>
    (pruned.append scaled.back).append mitigated.back

end Orchestrator

end FleetMend
