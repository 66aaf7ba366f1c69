import FleetMend.Proofs.Cycle.Atomicity
import FleetMend.Proofs.Cycle.Availability
import FleetMend.Proofs.Cycle.Ordinary

/-!
What the announcement of a transition of pruning is worth.

Pruning announces a transition as soon as its step has come to it.  The changes are stored later, if
they are stored, so what is announced need not come about.

* `Cycle.Announces`: a dialogue announces a transition.
* `Patch.Enters`: changes lead to a phase of pruning, whatever they are applied to.
* `Advance.enters`: a step that announces a transition has it among its changes.
* `Entered`: the phase is in the store.
* `Orchestrator.entered_of_announces`: a transition that is announced is among the changes of the
  cycle; it has come about where these are stored, and only then.
* `Orchestrator.announced_unstored`: it need not come about.
-/

namespace FleetMend

/-! ### Announcements -/

namespace Cycle

/-- The log announces, under the key, that pruning has reached the phase. -/
def Announces (log : Cycle.Log) (key : FleetKey) (phase : PruningPhase) : Prop :=
  ∃ event, (key, event) ∈ told log ∧ event.phase? = some phase

variable {log log₁ log₂ : Cycle.Log} {key : FleetKey} {phase : PruningPhase}

theorem announces_append :
    Announces (log₁ ++ log₂) key phase ↔ Announces log₁ key phase ∨ Announces log₂ key phase := by
  simp only [Announces, told_append, List.mem_append, or_and_right, exists_or]

/-- What is ordinary announces no transition. -/
theorem not_announces {who : Option Evaluator} {deadline : Nat}
    (h : ∀ e ∈ log, e.1.Ordinary who deadline) :
    ¬Announces log key phase := by
  rintro ⟨event, hm, announces⟩
  obtain ⟨⟨q, a⟩, he, hq⟩ := List.mem_filterMap.1 hm
  cases q with
  | announce key' event' =>
    cases hq
    have silent : event.phase? = none := (h _ he).silent
    rw [announces] at silent
    cases silent
  | await | clock | wallClock | shuttingDown => cases hq

theorem Ordinary.not_announces {α : Type} {p : Cycle α} {who : Option Evaluator} {deadline : Nat}
    {a : α} (h : p.Ordinary who deadline) (ends : p.Ends log a) : ¬Announces log key phase :=
  Cycle.not_announces (h.of_ends ends).1

end Cycle

/-! ### Changes that lead to a phase -/

/-- Pruning is in the phase after the changes, whatever they are applied to. -/
def Patch.Enters (p : Patch) (phase : PruningPhase) : Prop :=
  ∀ s, (p.apply s).pruningPhase = phase

namespace Patch

variable {p q : Patch} {phase : PruningPhase}

theorem enters_setPhase : Enters (p ++ [.setPhase phase]) phase := by
  intro s
  rw [apply_append]
  rfl

/-- Changes that are none of pruning's leave its status alone. -/
theorem pruning_apply (h : ∀ op ∈ p, op.prunes = false) (s : FleetStatus) :
    (p.apply s).healing.pruning = s.healing.pruning := by
  induction p generalizing s with
  | nil => rfl
  | cons op p ih =>
    obtain ⟨hop, hp⟩ := List.forall_mem_cons.1 h
    rw [apply_cons, ih hp]
    cases op <;> first | rfl | cases hop

theorem Enters.append (hp : p.Enters phase) (hq : ∀ op ∈ q, op.prunes = false) :
    (p ++ q).Enters phase := by
  intro s
  rw [apply_append, FleetStatus.pruningPhase, HealingStatus.pruningOrNew, pruning_apply hq]
  exact hp s

/-- No phase is entered without a change. -/
theorem not_enters_nil : ¬Enters [] phase := by
  intro h
  have first := h {}
  have other := h (StatusOp.apply (.setPhase .restoringPod) {}).1
  exact absurd (first.trans other.symm) (by decide)

end Patch

/-- A warning announces no transition, unless pruning starts over. -/
theorem Event.phase?_of_warning (event : Event) (warning : event.severity = .warning)
    (stays : event.isReset = false) : event.phase? = none := by
  cases event <;> first | rfl | (cases warning; done) | cases stays

/-- A step that announces a transition has it among its changes. -/
theorem Advance.enters {f : Fleet} {patch : Patch} {events : List Event} {event : Event}
    {phase : PruningPhase} (a : Advance f patch events) (hm : event ∈ events)
    (announces : event.phase? = some phase) : patch.Enters phase := by
  cases a with
  | stays told =>
    obtain ⟨warning, stays⟩ := told event hm
    rw [event.phase?_of_warning warning stays] at announces
    cases announces
  | takesOut pod now =>
    cases List.mem_singleton.1 hm
    cases announces
    rw [show [takeOut pod now, .setPhase .waitingForPodReplaced] =
      [takeOut pod now] ++ [.setPhase .waitingForPodReplaced] from rfl, ← List.append_assoc]
    exact Patch.enters_setPhase
  | replaced | signalled => cases hm
  | pruned =>
    cases List.mem_singleton.1 hm
    cases announces
    exact Patch.enters_setPhase (p := [])
  | restored | reset =>
    cases List.mem_singleton.1 hm
    cases announces
    exact Patch.enters_setPhase (p := [.clearCandidates])

/-! ### Phases in the store -/

/-- Pruning is in the phase in the store: a status in that phase was written, or the fleet that was
read last is in that phase already. -/
inductive Entered (key : FleetKey) (phase : PruningPhase) (log : Cycle.Log) :
    List Write → Prop where
  | written {before after : Fleet} (reached : after.status.pruningPhase = phase) :
    Entered key phase log [⟨key, before, after⟩]
  | already {f : Fleet} (read : Cycle.Read log key f) (reached : f.status.pruningPhase = phase) :
    Entered key phase log []

/-- The fleet that an answer brings. -/
def Query.fleet? : (q : Query) → q.Answer → Option Fleet
  | .await (.call (.readFleet _)) _, .ok (.ok f) => f
  | _, _ => none

/-- The fleets that a log shows, in order. -/
def Cycle.fleets (log : Cycle.Log) : List Fleet := log.filterMap fun e => e.1.fleet? e.2

theorem Cycle.mem_fleets {log : Cycle.Log} {key : FleetKey} {f : Fleet}
    (h : Cycle.Read log key f) : f ∈ Cycle.fleets log := by
  obtain ⟨limit, hm⟩ := h
  exact List.mem_filterMap.2 ⟨_, hm, rfl⟩

/-- Statuses that count as equal agree about pruning. -/
theorem FleetStatus.pruning_eq_of_beq {s t : FleetStatus} (h : (s == t) = true) :
    s.healing.pruning = t.healing.pruning := by
  obtain ⟨syncInfo, resizes, failures, pruning⟩ := s
  obtain ⟨syncInfo', resizes', failures', pruning'⟩ := t
  have parts : (syncInfo == syncInfo' &&
      (resizes == resizes' && (failures == failures' && pruning == pruning'))) = true := h
  simp only [Bool.and_eq_true] at parts
  exact eq_of_beq parts.2.2.2

theorem Stored.entered {key : FleetKey} {patch : Patch} {log : Cycle.Log} {ws : List Write}
    {phase : PruningPhase} (h : Stored key patch log ws) (enters : patch.Enters phase) :
    Entered key phase log ws := by
  cases h with
  | nothing empty =>
    rw [empty] at enters
    exact absurd enters Patch.not_enters_nil
  | unchanged read same =>
    refine .already read ?_
    rw [FleetStatus.pruningPhase, HealingStatus.pruningOrNew, ← FleetStatus.pruning_eq_of_beq same]
    exact enters _
  | written f => exact .written (enters f.status)

/-! ### Cycles -/

/-- Pruning announces a transition that it has among its changes. -/
theorem enters_of_ends_prune {timing : PruningTiming} {f : Fleet} {spec : PruningSpec}
    {c : CycleContext} {now : Time} {log : Cycle.Log} {contribution : Contribution} {k : FleetKey}
    {phase : PruningPhase} (h : (prune timing f spec c now).Ends log contribution)
    (announces : Cycle.Announces log k phase) : k = f.key ∧ contribution.patch.Enters phase := by
  obtain ⟨l₁, l₂, r, rfl, asked, after⟩ := Program.ends_bind_iff.1 h
  have silent : ¬Cycle.Announces l₁ k phase := ordinary_step.not_announces asked
  have announces := (Cycle.announces_append.1 announces).resolve_left silent
  cases r with
  | error e =>
    obtain ⟨rfl, -⟩ := Program.ends_done_iff.1 after
    obtain ⟨event, hm, -⟩ := announces
    cases hm
  | ok step =>
    obtain ⟨l₃, l₄, u, rfl, told, done⟩ := Program.ends_bind_iff.1 after
    obtain ⟨rfl, rfl⟩ := Program.ends_done_iff.1 done
    obtain rfl := Cycle.ends_announceAll_iff.1 told
    obtain ⟨event, hm, hphase⟩ := announces
    rw [List.append_nil, Cycle.told_telling] at hm
    obtain ⟨event', hm, same⟩ := List.mem_map.1 hm
    cases same
    obtain ⟨now', x, rest, -, bounded, hx⟩ := CycleContext.ends_withinDeadline_iff.1 asked
    rw [Cycle.raced_eq_ok_iff.1 hx.symm] at bounded
    obtain ⟨calls, hcalls, -⟩ := Cycle.ends_within_ok_iff.1 bounded
    exact ⟨rfl, (Advance.of_ends hcalls).enters hm hphase⟩

namespace Orchestrator

section

variable {o : Orchestrator} {key k : FleetKey} {c : CycleContext} {f : Fleet} {heal : HealSpec}
  {now : Time} {log : Cycle.Log} {contribution : Contribution} {phase : PruningPhase}

/-- Of the evaluators only pruning announces transitions, and the others leave its changes alone. -/
theorem enters_of_ends_evaluate (h : (o.evaluate f heal c now).Ends log contribution)
    (announces : Cycle.Announces log k phase) : k = f.key ∧ contribution.patch.Enters phase := by
  obtain ⟨l₁, l₂, l₃, pruned, scaled, mitigated, rfl, rfl, hpruned, hscaled, hmitigated⟩ :=
    ends_evaluate_iff.1 h
  have aside₂ := ((keeps_whenSet Contribution.aside_empty fun _ =>
    keeps_autoscale).of_ends hscaled).2
  have aside₃ := ((keeps_whenSet Contribution.aside_empty fun _ =>
    keeps_mitigateDrift).of_ends hmitigated).2
  have scales : (whenSet heal.autoscale fun spec =>
      autoscale o.settings.ioMillis f spec c now).Ordinary (some .volumes) c.deadline :=
    keeps_whenSet trivial fun _ => ordinary_autoscale
  have mitigates (spec : DriftSpec) : (mitigateDrift o.settings.minReady
      { fleet := f, spec, context := c, io := o.settings.ioMillis, now }).Ordinary (some .drift)
      c.deadline :=
    ordinary_mitigateDrift
  have silent₂ : ¬Cycle.Announces l₂ k phase := scales.not_announces hscaled
  have silent₃ : ¬Cycle.Announces l₃ k phase :=
    Cycle.Ordinary.not_announces (keeps_whenSet trivial mitigates) hmitigated
  have mine : Cycle.Announces l₁ k phase := (Cycle.announces_append.1
    ((Cycle.announces_append.1 announces).resolve_right silent₃)).resolve_right silent₂
  cases hspec : heal.pruning with
  | none =>
    rw [hspec] at hpruned
    obtain ⟨rfl, -⟩ := Program.ends_done_iff.1 hpruned
    obtain ⟨event, hm, -⟩ := mine
    cases hm
  | some spec =>
    rw [hspec] at hpruned
    obtain ⟨hk, enters⟩ := enters_of_ends_prune hpruned mine
    exact ⟨hk, (enters.append aside₂.patch).append aside₃.patch⟩

theorem enters_of_heals {closing : Closing}
    (heals : o.Heals key f heal c log contribution closing)
    (announces : Cycle.Announces log k phase) : k = f.key ∧ contribution.patch.Enters phase := by
  have evaluators {l₁ l₂ l₃ : Cycle.Log} {cancelled : Bool} {now : Time}
      (timed : Cycle.wallClock.Ends l₁ now)
      (evaluated : (o.evaluate f heal c now).Ends l₂ contribution)
      (looked : c.isCancelled.Ends l₃ cancelled)
      (announces : Cycle.Announces (l₁ ++ l₂ ++ l₃) k phase) :
      k = f.key ∧ contribution.patch.Enters phase := by
    have silent₁ : ¬Cycle.Announces l₁ k phase :=
      (ordinary_wallClock c.deadline).not_announces timed
    have silent₃ : ¬Cycle.Announces l₃ k phase :=
      CycleContext.ordinary_isCancelled.not_announces looked
    exact enters_of_ends_evaluate evaluated ((Cycle.announces_append.1
      ((Cycle.announces_append.1 announces).resolve_right silent₃)).resolve_left silent₁)
  cases heals with
  | cancelled timed evaluated looked => exact evaluators timed evaluated looked announces
  | concluded timed evaluated looked concluded =>
    have back := (keeps_evaluate.of_ends evaluated).2
    exact evaluators timed evaluated looked ((Cycle.announces_append.1 announces).resolve_right
      ((ordinary_conclude back).not_announces concluded))

/-- A cycle that announces a transition heals, and has it among its changes. -/
theorem enters_of_ends_cycle {report : Report} (h : (o.cycle key c).Ends log report)
    (announces : Cycle.Announces log k phase) :
    ∃ f contribution closing, report = .healed f contribution closing ∧ k = f.key ∧
      contribution.patch.Enters phase := by
  cases reports_of_ends h with
  | still read still => exact absurd announces (ordinary_readFleet.not_announces read)
  | healed read asked heals =>
    have announces := (Cycle.announces_append.1 announces).resolve_left
      (ordinary_readFleet.not_announces read)
    exact ⟨_, _, _, rfl, enters_of_heals heals announces⟩

theorem isOk_outcome_of_not_stored {closing : Closing} (h : closing ≠ .stored) :
    (o.outcome (.healed f contribution closing)).isOk = false := by
  cases closing with
  | stored => exact absurd rfl h
  | cancelled | failed =>
    rw [Outcome.isOk, outcome, Failures.isEmpty, List.isEmpty_eq_false_iff]
    exact List.append_ne_nil_of_right_ne_nil _ (List.cons_ne_nil _ _)

/-- **Announcements.**  Whatever the replies, the delays, the shutdowns and the edits by others: a
transition of pruning that a cycle announces is among its changes, whatever status these are applied
to.  Where the changes are stored, the fleet is in the phase announced; where they are not, nothing
is written, which the cycle reports, but the transition has been announced all the same. -/
theorem entered_of_announces {s t : Store} {ws : List Write} {outcome : Outcome}
    (ends : (o.reconcile key c).Ends log outcome) (course : s.Course log ws t)
    (announces : Cycle.Announces log k phase) :
    ∃ f contribution closing, (o.cycle key c).Ends log (.healed f contribution closing) ∧
      outcome = o.outcome (.healed f contribution closing) ∧ k = f.key ∧
      contribution.patch.Enters phase ∧
      (closing = .stored → Entered key phase log ws) ∧
      (closing ≠ .stored → ws = [] ∧ outcome.isOk = false) := by
  obtain ⟨report, cycled, rfl, fits⟩ := reconcile_atomic ends course
  obtain ⟨f, contribution, closing, rfl, hk, enters⟩ := enters_of_ends_cycle cycled announces
  exact ⟨f, contribution, closing, cycled, rfl, hk, enters,
    fun stored => (fits.stored stored).entered enters,
    fun unstored => ⟨fits.unstored unstored, isOk_outcome_of_not_stored unstored⟩⟩

end

open Laggard in
/-- A candidate is announced, and stored. -/
theorem entered_of_announces_laggard :
    let s : Store := SortedMap.empty.insert key fleet
    let t : Store := s.insert key stored
    (orchestrator.reconcile key context).Ends log
        (orchestrator.outcome (.healed fleet contribution .stored)) ∧
      s.Course log [⟨key, fleet, stored⟩] t ∧
      Cycle.Announces log key .waitingForPodReplaced ∧
      Entered key .waitingForPodReplaced log [⟨key, fleet, stored⟩] := by
  intro s t
  have ends : (orchestrator.reconcile key context).Ends log
      (orchestrator.outcome (.healed fleet contribution .stored)) :=
    Program.ends_map_iff.2 ⟨_, ends_log, rfl⟩
  have course : s.Course log [⟨key, fleet, stored⟩] t := by
    have found : s.find? key = some fleet := SortedMap.find?_insert_self ..
    -- the read, the wall clock, and what pruning and drift ask and tell
    refine .still ⟨rfl, rfl⟩ (.still ⟨found.symm, rfl, rfl⟩ (.still ⟨rfl, rfl⟩ ?_))
    refine .still ⟨rfl, rfl⟩ (.still ⟨rfl, rfl⟩ (.still ⟨rfl, rfl⟩ (.still ⟨rfl, rfl⟩ ?_)))
    refine .still ⟨rfl, rfl⟩ (.still ⟨rfl, rfl⟩ (.still ⟨rfl, rfl⟩ (.still ⟨rfl, rfl⟩ ?_)))
    refine .still ⟨rfl, rfl⟩ (.still ⟨rfl, rfl⟩ (.still ⟨rfl, rfl⟩ (.still ⟨rfl, rfl⟩ ?_)))
    -- the write
    have wrote := Store.updateStatus_of_version_eq found rfl stored.status
    change Store.Course _ _ ([⟨key, fleet, stored⟩] ++ []) t
    exact .still ⟨found.symm, rfl, rfl⟩
      (.next (.refl _) ⟨fleet, found, wrote, rfl⟩ (.rest (.refl _)))
  have announces : Cycle.Announces log key .waitingForPodReplaced :=
    ⟨.candidateFound "osmosis-0", List.mem_cons_self, rfl⟩
  refine ⟨ends, course, announces, ?_⟩
  obtain ⟨_, _, closing, -, -, -, -, entered, unstored⟩ :=
    entered_of_announces ends course announces
  by_cases wrote : closing = .stored
  · exact entered wrote
  · exact absurd (unstored wrote).1 (List.cons_ne_nil _ _)

end Orchestrator

/-! ### An outage

Pruning takes a pod out while the store is down.  One of the volumes is too full besides, and the
size that it is to grow by makes no sense. -/

namespace Outage

open Laggard (key context orchestrator now timing pruning)

def autoscale : AutoscaleSpec := { trigger := 80, increase := "plenty" }

def heal : HealSpec := { pruning := some pruning, autoscale := some autoscale }

/-- Pruning has run before. -/
def fleet : Fleet :=
  { key, version := 1
    spec := { replicas := 3, heal := some heal }
    status := { healing := { pruning := some {} } } }

def usage : List DiskUsage := [⟨"pvc-osmosis-0", 85, default⟩]

def plan : ResizePlan := planResizes usage autoscale ∅ now

/-- What the evaluators add where pruning gets to see this. -/
def contribution (x : Sight) : Contribution :=
  (x.outcome timing fleet pruning now).contribution ++ plan.contribution ++ {}

/-- What pruning asks and tells. -/
def pruned (x : Sight) : Cycle.Log :=
  ⟨.clock, (0 : Nat)⟩ :: (x.asked timing fleet).map (Cycle.awaited context.deadline) ++
    Cycle.telling key (x.outcome timing fleet pruning now).events

/-- What is asked and told about the volumes. -/
def scaled : Cycle.Log :=
  context.replied orchestrator.settings.ioMillis 0 (.collectUsage fleet) (.ok usage) ++
    Cycle.telling key plan.events

/-- A cycle in which pruning gets to see this, up to its end. -/
def preliminaries (x : Sight) : Cycle.Log :=
  [⟨.wallClock, now⟩] ++ (pruned x ++ scaled ++ []) ++
    [⟨.shuttingDown, false⟩, ⟨.clock, (0 : Nat)⟩]

def log (x : Sight) (closing : Cycle.Log) : Cycle.Log :=
  context.replied orchestrator.settings.ioMillis 0 (.readFleet key) (.ok (some fleet)) ++
    (preliminaries x ++ closing)

def down : ControlError := .gateway "down"

/-- The write is refused. -/
def closing : Cycle.Log :=
  ⟨.clock, (0 : Nat)⟩ :: Orchestrator.refused key fleet down (contribution Laggard.sight).patch
    context.deadline ++ Cycle.telling key [.statusPersistFailed down.message]

theorem ends_log {x : Sight} {l : Cycle.Log} {r : Closing}
    (concluded : (orchestrator.conclude key context (contribution x)).Ends l r) :
    (orchestrator.cycle key context).Ends (log x l) (.healed fleet (contribution x) r) := by
  have evaluated : (orchestrator.evaluate fleet heal context now).Ends (pruned x ++ scaled ++ [])
      (contribution x) :=
    Orchestrator.ends_evaluate_iff.2 ⟨pruned x, scaled, [], _, _, {}, rfl, rfl, ends_prune x,
      ends_autoscale, .done _⟩
  have looked : context.isCancelled.Ends [⟨.shuttingDown, false⟩, ⟨.clock, (0 : Nat)⟩] false :=
    CycleContext.ends_isCancelled (by decide)
  exact Orchestrator.ends_cycle rfl
    (.concluded (Program.ends_put_iff.2 rfl) evaluated looked concluded)

theorem ends_closing :
    (orchestrator.conclude key context (contribution Laggard.sight)).Ends closing
      (.failed down) :=
  Orchestrator.ends_conclude_refused rfl (by decide) rfl

def store : Store := SortedMap.empty.insert key fleet

/-- The cycle leaves the store as it was. -/
theorem course_log : store.Course (log Laggard.sight closing) [] store := by
  have stored : store.find? key = some fleet := SortedMap.find?_insert_self ..
  -- the read, the wall clock, and what the evaluators ask and tell
  refine .still ⟨rfl, rfl⟩ (.still ⟨stored.symm, rfl, rfl⟩ (.still ⟨rfl, rfl⟩ ?_))
  refine .still ⟨rfl, rfl⟩ (.still ⟨rfl, rfl⟩ (.still ⟨rfl, rfl⟩ (.still ⟨rfl, rfl⟩ ?_)))
  refine .still ⟨rfl, rfl⟩ (.still ⟨rfl, rfl⟩ (.still ⟨rfl, rfl⟩ ?_))
  -- the look whether to go on, the attempt to write, and that it has failed
  refine .still ⟨rfl, rfl⟩ (.still ⟨rfl, rfl⟩ (.still ⟨rfl, rfl⟩ ?_))
  exact .still ⟨stored.symm, rfl, rfl⟩ (.still ⟨rfl, rfl⟩ (.still ⟨rfl, rfl⟩ (.rest (.refl _))))

theorem announces_log :
    Cycle.Announces (log Laggard.sight closing) key .waitingForPodReplaced :=
  ⟨.candidateFound "osmosis-0", List.mem_cons_self, rfl⟩

theorem eq_fleet_of_read {f : Fleet} (h : Cycle.Read (log Laggard.sight closing) key f) :
    f = fleet := by
  have shown : Cycle.fleets (log Laggard.sight closing) = [fleet, fleet] := rfl
  have hm := Cycle.mem_fleets h
  rw [shown] at hm
  simpa using hm

end Outage

open Outage Laggard in
/-- **No more than that.**  A transition of pruning may be announced that does not come about. -/
theorem Orchestrator.announced_unstored :
    ¬∀ (o : Orchestrator) (key k : FleetKey) (c : CycleContext) (s t : Store) (log : Cycle.Log)
        (ws : List Write) (outcome : Outcome) (phase : PruningPhase),
      (o.reconcile key c).Ends log outcome → s.Course log ws t →
        Cycle.Announces log k phase → Entered key phase log ws := by
  intro enters
  have ends : (orchestrator.reconcile key context).Ends (Outage.log sight closing) _ :=
    Program.ends_map_iff.2 ⟨_, ends_log ends_closing, rfl⟩
  cases enters _ _ _ _ _ _ _ _ _ _ ends course_log announces_log with
  | already read reached =>
    rw [eq_fleet_of_read read] at reached
    cases reached

end FleetMend
