import FleetMend.Proofs.Cycle.Clock
import FleetMend.Proofs.Cycle.Parts

/-!
What the parts of a cycle ask, each for itself.

* `Evaluator`, `Request.asker?`: whoever makes a request in a cycle can be told by the request.
* `Event.phase?`: the phase that pruning is in after the transition that an event announces.
* `Query.Ordinary`: the question is that of this part, waits no longer than to the deadline of the
  cycle, and announces no transition of pruning.
* `CycleContext.ordinary_bound` and its like: whatever is asked within the bounds of a cycle.
* `ordinary_autoscale`, `ordinary_mitigateDrift`, `Orchestrator.ordinary_conclude`: all parts are
  ordinary but pruning; `asks_prune`: pruning announces transitions.
-/

namespace FleetMend

inductive Evaluator
  | pruning
  | volumes
  | drift
deriving DecidableEq

/-- The evaluator that makes the call in a cycle, if one does, and waits for it as long as it takes.
-/
def Call.asker? : Call → Option Evaluator
  | collectUsage _ => some .volumes
  | collectStatus _ | deletePod _ | readClaim .. | deleteClaim _ => some .drift
  | readFleet _ | writeStatus .. | listPods _ => none

/-- The evaluator that makes the request in a cycle, if one does.  Pruning gives up after a time of
its own what it looks at, and the others do not. -/
def Request.asker? : Request → Option Evaluator
  | call c => c.asker?
  | callWithin c _ => if c.looks then some .pruning else c.asker?
  | pause .. => none

/-- The phase of pruning that has been reached by the transition which the event announces. -/
def Event.phase? : Event → Option PruningPhase
  | candidateFound _ => some .waitingForPodReplaced
  | pruningComplete _ => some .restoringPod
  | podRestored _ | pruningReset .. => some .findingCandidate
  | _ => none

/-- What announces changes that are to be stored first announces no transition of pruning. -/
theorem Event.phase?_of_isHeld {event : Event} (h : event.isHeld = true) : event.phase? = none := by
  cases event <;> first | rfl | cases h

namespace Query

/-- What the question waits for, if for anything, is what this evaluator asks, or none of them. -/
def AskedBy (who : Option Evaluator) : Query → Prop
  | await r _ => r.asker? = who
  | clock | wallClock | shuttingDown | announce .. => True

/-- The phase of pruning that the question announces. -/
def phase? : Query → Option PruningPhase
  | announce _ event => event.phase?
  | _ => none

structure Ordinary (who : Option Evaluator) (deadline : Nat) (q : Query) : Prop where
  asked : q.AskedBy who
  inTime : q.Until deadline
  silent : q.phase? = none

end Query

/-- All that the program asks is ordinary. -/
abbrev Cycle.Ordinary {α : Type} (p : Cycle α) (who : Option Evaluator) (deadline : Nat) : Prop :=
  p.Keeps (Query.Ordinary who deadline) fun _ => True

/-- All that the errand asks is what this evaluator asks. -/
abbrev Errand.AskedBy {α : Type} (errand : Errand α) (who : Option Evaluator) : Prop :=
  errand.Keeps (fun r => r.asker? = who) fun _ => True

theorem Errand.askedBy_call {call : Call} {who : Option Evaluator}
    (h : (Request.call call).asker? = who) : (Errand.call call).AskedBy who :=
  ⟨h, fun _ => trivial⟩

variable {who : Option Evaluator}

/-! ### Bounded waits -/

namespace Cycle

theorem ordinary_race {α : Type} {operation : String} {now limit deadline : Nat}
    {errand : Errand α} (asks : errand.AskedBy who) (h : limit ≤ deadline) :
    (race operation now limit errand).Ordinary who deadline := by
  have asks : errand.Keeps (fun r => (Query.await r limit).Ordinary who deadline) fun _ => True :=
    asks.mono (fun _ hr => ⟨hr, h, rfl⟩) fun _ h => h
  exact (keeps_race (R := fun _ => True) asks fun _ _ _ => trivial).mono (fun _ h => h)
    fun _ _ => trivial

theorem ordinary_announce {key : FleetKey} {event : Event} {deadline : Nat}
    (h : event.phase? = none) : (announce key event).Ordinary who deadline :=
  Program.Keeps.put ⟨trivial, trivial, h⟩

theorem ordinary_announceAll {key : FleetKey} {events : List Event} {deadline : Nat}
    (h : ∀ e ∈ events, e.phase? = none) : (announceAll key events).Ordinary who deadline :=
  keeps_announceAll fun e he => ⟨trivial, trivial, h e he⟩

end Cycle

namespace CycleContext

variable {α : Type} {c : CycleContext} {operation : String} {millis : Nat}

theorem ordinary_bound {errand : Errand α} (asks : errand.AskedBy who) :
    (c.bound operation millis errand).Ordinary who c.deadline :=
  (Program.Keeps.put ⟨trivial, trivial, rfl⟩).bind fun _ _ =>
    Cycle.ordinary_race asks (Nat.min_le_right ..)

theorem ordinary_withinDeadline {errand : Errand α} (asks : errand.AskedBy who) :
    (c.withinDeadline operation errand).Ordinary who c.deadline :=
  (Program.Keeps.put ⟨trivial, trivial, rfl⟩).bind fun _ _ =>
    Cycle.ordinary_race asks (Nat.le_refl _)

theorem ordinary_run {errand : Errand (Except ControlError α)} (asks : errand.AskedBy who) :
    (c.run operation millis errand).Ordinary who c.deadline :=
  (ordinary_bound asks).map

theorem ordinary_isCancelled : c.isCancelled.Ordinary none c.deadline :=
  (Program.Keeps.put ⟨trivial, trivial, rfl⟩).bind fun _ _ =>
    (Program.Keeps.put ⟨trivial, trivial, rfl⟩).map

end CycleContext

/-! ### Pruning -/

section

variable {timing : PruningTiming} {f : Fleet} {spec : PruningSpec} {c : CycleContext} {now : Time}

theorem ordinary_step : (c.withinDeadline "pruning step" (pruneStep timing f spec now)).Ordinary
    (some .pruning) c.deadline :=
  CycleContext.ordinary_withinDeadline (keeps_pruneStep fun _ _ looks => if_pos looks)

/-- Pruning may announce a transition, and is ordinary else. -/
theorem asks_prune : (prune timing f spec c now).Keeps
    (fun q => q.AskedBy (some .pruning) ∧ q.Until c.deadline) fun _ => True := by
  refine (ordinary_step.mono (fun _ h => ⟨h.asked, h.inTime⟩) fun _ h => h).bind fun r _ => ?_
  cases r with
  | error e => trivial
  | ok step => exact (Cycle.keeps_announceAll fun _ _ => ⟨trivial, trivial⟩).bind fun _ _ => trivial

end

/-! ### Volumes -/

theorem ordinary_autoscale {io : Nat} {f : Fleet} {spec : AutoscaleSpec} {c : CycleContext}
    {now : Time} : (autoscale io f spec c now).Ordinary (some .volumes) c.deadline := by
  have asks : (readUsage f).AskedBy (some .volumes) := (Errand.askedBy_call rfl).map
  refine (CycleContext.ordinary_run asks).bind fun r _ => ?_
  cases r with
  | error e => exact (Cycle.ordinary_announce rfl).bind fun _ _ => trivial
  | ok samples =>
    refine (Cycle.ordinary_announceAll fun e he => ?_).bind fun _ _ => trivial
    unfold ResizePlan.events at he
    split at he
    · cases he
    · rw [List.mem_singleton.1 he]
      rfl

/-! ### Drift -/

namespace DriftSetting

variable {s : DriftSetting} {pod : Pod} {r : Remediation}

theorem ordinary_regenerateClaim :
    (s.regenerateClaim pod).Ordinary (some .drift) s.context.deadline := by
  refine (CycleContext.ordinary_run (Errand.askedBy_call rfl)).bind fun r _ => ?_
  rcases r with e | _ | claim
  · trivial
  · trivial
  · exact (CycleContext.ordinary_run (Errand.askedBy_call rfl)).map

theorem ordinary_logFailure {tracker : Tracker} :
    (s.logFailure tracker pod r).Ordinary (some .drift) s.context.deadline := by
  unfold logFailure
  dsimp only
  split
  · refine ordinary_regenerateClaim.bind fun x _ => ?_
    cases x with
    | error e => exact (Cycle.ordinary_announce rfl).bind fun _ _ => trivial
    | ok u => trivial
  · trivial

theorem ordinary_afterDelete {x : Except ControlError Unit} :
    (s.afterDelete r pod x).Ordinary (some .drift) s.context.deadline := by
  unfold afterDelete
  cases ignoreNotFound x with
  | error e => exact (Cycle.ordinary_announce rfl).bind fun _ _ => trivial
  | ok u =>
    cases s.spec.regenerate with
    | none => trivial
    | some regenerate => exact ordinary_logFailure

theorem ordinary_remedy : (s.remedy r pod).Ordinary (some .drift) s.context.deadline :=
  (CycleContext.ordinary_run (Errand.askedBy_call rfl)).bind fun _ _ => ordinary_afterDelete

end DriftSetting

theorem ordinary_mitigateDrift {minReady : Span} {s : DriftSetting} :
    (mitigateDrift minReady s).Ordinary (some .drift) s.context.deadline := by
  have asks : (Errand.call (.collectStatus s.fleet)).AskedBy (some .drift) :=
    Errand.askedBy_call rfl
  refine (CycleContext.ordinary_bound asks).bind fun x _ => ?_
  cases x with
  | error e => trivial
  | ok items =>
    refine (Program.Keeps.foldlM _ (fun _ _ _ => DriftSetting.ordinary_remedy) trivial).bind
      fun r _ => (Cycle.ordinary_announceAll fun e he => ?_).bind fun _ _ => trivial
    unfold DriftSetting.summary at he
    split at he
    · cases he
    · rw [List.mem_singleton.1 he]
      rfl

/-! ### The rest of a cycle -/

namespace Orchestrator

variable {o : Orchestrator} {key : FleetKey} {c : CycleContext}

theorem ordinary_readFleet :
    (c.run "get resource" o.settings.ioMillis (Errand.call (.readFleet key))).Ordinary none
      c.deadline :=
  CycleContext.ordinary_run (Errand.askedBy_call rfl)

theorem ordinary_wallClock (deadline : Nat) : Cycle.wallClock.Ordinary none deadline :=
  Program.Keeps.put ⟨trivial, trivial, rfl⟩

/-- What is told at the end of a cycle was held back by its evaluators, or is why it failed. -/
theorem ordinary_conclude {contribution : Contribution} (back : contribution.HoldsBack) :
    (o.conclude key c contribution).Ordinary none c.deadline := by
  have asks : (persist o.retry key contribution.patch).AskedBy none :=
    keeps_persistLeft (P := fun r => r.asker? = none) rfl (fun _ _ => rfl) (fun _ _ => rfl) _
  have stores : (o.storeChanges key c contribution.patch).Ordinary none c.deadline := by
    unfold storeChanges
    split
    · trivial
    · exact (CycleContext.ordinary_withinDeadline asks).map
  refine stores.bind fun r _ => ?_
  cases r with
  | error e => exact (Cycle.ordinary_announce rfl).bind fun _ _ => trivial
  | ok u =>
    have told : ∀ e ∈ contribution.actions, e.phase? = none :=
      fun e he => Event.phase?_of_isHeld (back e he)
    exact (Cycle.ordinary_announceAll told).bind fun _ _ => trivial

end Orchestrator

end FleetMend
