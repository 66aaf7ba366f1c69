import FleetMend.Proofs.Cycle.Announcement
import FleetMend.Proofs.Cycle.Lockstep

/-!
What one evaluator hears makes no difference to the others.

* `Orchestrator.evaluator`, `Orchestrator.twins_evaluator`: in two cycles of the same fleet at the
  same time, an evaluator goes on alike as long as it hears the same.
* `Cycle.heardBy`, `Cycle.removed`: what one evaluator hears in a cycle, and what a cycle deletes.
* `Orchestrator.Undisturbed`: a cycle that heals, and has neither a shutdown nor its deadline in its
  way.
* `Orchestrator.exists_shares`, `Orchestrator.shares_eq`: such a cycle is made of what its
  evaluators add, and two of them differ only in what those add that hear something else.
* `Orchestrator.independent`: what pruning hears, and what is heard of the volumes, makes no
  difference to what the others delete, change and report.
* `Orchestrator.failures_beside_outage`: it makes one to the end of a cycle, which reports as well.
-/

namespace FleetMend

/-! ### Evaluators of two cycles -/

section

variable {f : Fleet} {c₁ c₂ : CycleContext} {now : Time}

theorem twins_prune {timing : PruningTiming} {spec : PruningSpec} :
    Cycle.Twins c₁.deadline c₂.deadline (prune timing f spec c₁ now)
      (prune timing f spec c₂ now) := by
  refine CycleContext.twins_withinDeadline.bind fun r => ?_
  cases r with
  | error e => exact .done _
  | ok step => exact (Cycle.Twins.announceAll ..).bind fun _ => .done _

theorem twins_autoscale {io : Nat} {spec : AutoscaleSpec} :
    Cycle.Twins c₁.deadline c₂.deadline (autoscale io f spec c₁ now)
      (autoscale io f spec c₂ now) := by
  refine CycleContext.twins_run.bind fun r => ?_
  cases r with
  | error e => exact .announce (.done _)
  | ok samples => exact (Cycle.Twins.announceAll ..).bind fun _ => .done _

end

namespace DriftSetting

/-- The same setting within other bounds. -/
def within (s : DriftSetting) (c : CycleContext) : DriftSetting := { s with context := c }

variable {s : DriftSetting} {c₁ c₂ : CycleContext} {pod : Pod} {r : Remediation}

theorem twins_regenerateClaim :
    Cycle.Twins c₁.deadline c₂.deadline ((s.within c₁).regenerateClaim pod)
      ((s.within c₂).regenerateClaim pod) := by
  refine CycleContext.twins_run.bind fun r => ?_
  rcases r with e | _ | claim
  · exact .done _
  · exact .done _
  · exact CycleContext.twins_run.map

theorem twins_logFailure {tracker : Tracker} :
    Cycle.Twins c₁.deadline c₂.deadline ((s.within c₁).logFailure tracker pod r)
      ((s.within c₂).logFailure tracker pod r) := by
  unfold logFailure
  dsimp only [within]
  split
  · refine twins_regenerateClaim.bind fun x => ?_
    cases x with
    | error e => exact .announce (.done _)
    | ok u => exact .done _
  · exact .done _

theorem twins_afterDelete {x : Except ControlError Unit} :
    Cycle.Twins c₁.deadline c₂.deadline ((s.within c₁).afterDelete r pod x)
      ((s.within c₂).afterDelete r pod x) := by
  unfold afterDelete
  cases ignoreNotFound x with
  | error e => exact .announce (.done _)
  | ok u =>
    dsimp only [within]
    cases s.spec.regenerate with
    | none => exact .done _
    | some regenerate => exact twins_logFailure

theorem twins_remedy :
    Cycle.Twins c₁.deadline c₂.deadline ((s.within c₁).remedy r pod)
      ((s.within c₂).remedy r pod) :=
  CycleContext.twins_run.bind fun _ => twins_afterDelete

theorem twins_mitigateDrift {minReady : Span} :
    Cycle.Twins c₁.deadline c₂.deadline (mitigateDrift minReady (s.within c₁))
      (mitigateDrift minReady (s.within c₂)) := by
  refine CycleContext.twins_bound.bind fun x => ?_
  cases x with
  | error e => exact .done _
  | ok items =>
    exact (Cycle.Twins.foldlM _ (fun _ _ => twins_remedy) _).bind fun r =>
      (Cycle.Twins.announceAll ..).bind fun _ => .done _

end DriftSetting

namespace Orchestrator

variable {o : Orchestrator} {f : Fleet} {heal : HealSpec} {c c₁ c₂ : CycleContext} {now : Time}

/-- One of the evaluators, if it is switched on. -/
def evaluator (o : Orchestrator) (f : Fleet) (heal : HealSpec) (c : CycleContext) (now : Time) :
    Evaluator → Cycle Contribution
  | .pruning => whenSet heal.pruning fun spec => prune o.settings.pruningTiming f spec c now
  | .volumes => whenSet heal.autoscale fun spec => autoscale o.settings.ioMillis f spec c now
  | .drift => whenSet heal.drift fun spec => mitigateDrift o.settings.minReady
      { fleet := f, spec, context := c, io := o.settings.ioMillis, now }

theorem twins_whenSet {α : Type} {spec : Option α} {evaluate₁ evaluate₂ : α → Cycle Contribution}
    {d₁ d₂ : Nat} (h : ∀ a, Cycle.Twins d₁ d₂ (evaluate₁ a) (evaluate₂ a)) :
    Cycle.Twins d₁ d₂ (whenSet spec evaluate₁) (whenSet spec evaluate₂) := by
  cases spec with
  | none => exact .done _
  | some a => exact h a

/-- The same evaluator in two cycles. -/
theorem twins_evaluator (e : Evaluator) :
    Cycle.Twins c₁.deadline c₂.deadline (o.evaluator f heal c₁ now e)
      (o.evaluator f heal c₂ now e) := by
  cases e with
  | pruning => exact twins_whenSet fun _ => twins_prune
  | volumes => exact twins_whenSet fun _ => twins_autoscale
  | drift =>
    exact twins_whenSet fun spec => DriftSetting.twins_mitigateDrift
      (s := { fleet := f, spec, context := c₁, io := o.settings.ioMillis, now })

/-- An evaluator asks what is its own to ask. -/
theorem asks_evaluator (e : Evaluator) :
    (o.evaluator f heal c now e).Keeps (Query.AskedBy (some e)) fun _ => True := by
  cases e with
  | pruning =>
    exact keeps_whenSet trivial fun _ => asks_prune.mono (fun _ h => h.1) fun _ h => h
  | volumes =>
    exact keeps_whenSet trivial fun _ => ordinary_autoscale.mono (fun _ h => h.asked) fun _ h => h
  | drift =>
    exact keeps_whenSet trivial fun _ =>
      ordinary_mitigateDrift.mono (fun _ h => h.asked) fun _ h => h

end Orchestrator

/-! ### What one evaluator hears -/

/-- The pod or the claim that the call deletes. -/
def Call.removes? : Call → Option (Pod ⊕ VolumeClaim)
  | deletePod pod => some (.inl pod)
  | deleteClaim claim => some (.inr claim)
  | _ => none

def Request.removes? : Request → Option (Pod ⊕ VolumeClaim)
  | call c | callWithin c _ => c.removes?
  | pause .. => none

def Query.removes? : Query → Option (Pod ⊕ VolumeClaim)
  | await r _ => r.removes?
  | clock | wallClock | shuttingDown | announce .. => none

/-- Only drift deletes anything. -/
theorem Request.asker?_of_removes {r : Request} (h : r.removes? ≠ none) :
    r.asker? = some .drift := by
  cases r with
  | call c => cases c <;> first | rfl | exact absurd rfl h
  | callWithin c => cases c <;> first | rfl | exact absurd rfl h
  | pause => exact absurd rfl h

namespace Cycle

/-- The pods and claims that a log has asked to delete, in order. -/
def removed (log : Cycle.Log) : List (Pod ⊕ VolumeClaim) := log.filterMap (·.1.removes?)

/-- What an evaluator has waited for in a log, in order, with what came of it. -/
def heardBy (who : Evaluator) (log : Cycle.Log) : List Heard :=
  (heard log).filter (·.1.asker? = some who)

variable {log log₁ log₂ : Cycle.Log} {who : Evaluator}

theorem heardBy_append : heardBy who (log₁ ++ log₂) = heardBy who log₁ ++ heardBy who log₂ := by
  rw [heardBy, heard_append, List.filter_append]
  rfl

/-- An evaluator hears what it asks for. -/
theorem heardBy_of_askedBy (h : ∀ e ∈ log, e.1.AskedBy (some who)) :
    heardBy who log = heard log := by
  refine List.filter_eq_self.2 fun e he => ?_
  obtain ⟨⟨q, a⟩, hm, hq⟩ := List.mem_filterMap.1 he
  cases q with
  | await r limit =>
    cases hq
    exact decide_eq_true (h _ hm)
  | clock | wallClock | shuttingDown | announce => cases hq

/-- An evaluator does not hear what others ask for. -/
theorem heardBy_eq_nil {other : Option Evaluator} (h : ∀ e ∈ log, e.1.AskedBy other)
    (hne : other ≠ some who) : heardBy who log = [] := by
  refine List.filter_eq_nil_iff.2 fun e he => ?_
  obtain ⟨⟨q, a⟩, hm, hq⟩ := List.mem_filterMap.1 he
  cases q with
  | await r limit =>
    cases hq
    have asked : r.asker? = other := h _ hm
    rw [asked]
    exact fun same => hne (of_decide_eq_true same)
  | clock | wallClock | shuttingDown | announce => cases hq

/-- What a log deletes is what drift hears of. -/
theorem removed_eq (log : Cycle.Log) :
    removed log = (heardBy .drift log).filterMap (·.1.removes?) := by
  rw [heardBy, List.filterMap_filter, heard, List.filterMap_filterMap]
  refine List.filterMap_congr fun e _ => ?_
  obtain ⟨q, a⟩ := e
  cases q with
  | await r limit =>
    change r.removes? = if decide (r.asker? = some .drift) = true then r.removes? else none
    cases removes : r.removes? with
    | none => rw [ite_self]
    | some x =>
      have mine : r.asker? = some .drift :=
        Request.asker?_of_removes (by rw [removes]; exact Option.some_ne_none x)
      rw [if_pos (decide_eq_true mine)]
  | clock | wallClock | shuttingDown | announce => rfl

end Cycle

/-! ### Shares -/

/-- What the evaluators add, one after the other. -/
def Contribution.sum (share : Evaluator → Contribution) : Contribution :=
  share .pruning ++ share .volumes ++ share .drift

namespace Orchestrator

variable {o : Orchestrator} {key : FleetKey} {f : Fleet} {heal : HealSpec} {c c₁ c₂ : CycleContext}
  {now : Time} {log log₁ log₂ : Cycle.Log} {a a₁ a₂ : Contribution}
  {closing closing₁ closing₂ : Closing}

/-- In the cycle of the log, an evaluator adds this. -/
def Adds (o : Orchestrator) (f : Fleet) (c : CycleContext) (now : Time) (e : Evaluator)
    (log : Cycle.Log) (a : Contribution) : Prop :=
  ∃ heal l, f.spec.heal = some heal ∧ l <:+: log ∧ Cycle.heardBy e log = Cycle.heard l ∧
    (o.evaluator f heal c now e).Ends l a

/-- A cycle that heals the fleet, found as it is, at this time, and that is over before its deadline
and before a shutdown. -/
structure Undisturbed (o : Orchestrator) (key : FleetKey) (f : Fleet) (now : Time)
    (c : CycleContext) (log : Cycle.Log) (a : Contribution) (closing : Closing) : Prop where
  ends : (o.cycle key c).Ends log (.healed f a closing)
  shows : ∀ t, ⟨.wallClock, t⟩ ∈ log → t = now
  passes : ∃ stop start later, Cycle.Passes stop start log later ∧ later < c.deadline ∧
    hasBegun stop later = false

theorem Undisturbed.unhindered (h : o.Undisturbed key f now c log a closing) :
    ∀ e ∈ log, e.1.Unhindered c.deadline e.2 := by
  obtain ⟨stop, start, later, passes, inTime, running⟩ := h.passes
  exact passes.unhindered inTime running

/-- A cycle whose evaluators run between other parts is made of what each adds. -/
theorem exists_shares_of_evaluate {before l after : Cycle.Log} (asked : f.spec.heal = some heal)
    (evaluated : (o.evaluate f heal c now).Ends l a)
    (hbefore : ∀ e ∈ before, e.1.AskedBy none) (hafter : ∀ e ∈ after, e.1.AskedBy none) :
    ∃ share, a = .sum share ∧ ∀ e, o.Adds f c now e (before ++ l ++ after) (share e) := by
  obtain ⟨l₁, l₂, l₃, pruned, scaled, mitigated, rfl, rfl, hpruned, hscaled, hmitigated⟩ :=
    ends_evaluate_iff.1 evaluated
  have asks₁ := ((asks_evaluator .pruning).of_ends hpruned).1
  have asks₂ := ((asks_evaluator .volumes).of_ends hscaled).1
  have asks₃ := ((asks_evaluator .drift).of_ends hmitigated).1
  have outside (e : Evaluator) : Cycle.heardBy e before = [] ∧ Cycle.heardBy e after = [] :=
    ⟨Cycle.heardBy_eq_nil hbefore nofun, Cycle.heardBy_eq_nil hafter nofun⟩
  refine ⟨fun | .pruning => pruned | .volumes => scaled | .drift => mitigated, rfl, fun e => ?_⟩
  cases e with
  | pruning =>
    refine ⟨heal, l₁, asked, ⟨before, l₂ ++ l₃ ++ after, by simp⟩, ?_, hpruned⟩
    simp [Cycle.heardBy_append, outside, Cycle.heardBy_of_askedBy asks₁,
      Cycle.heardBy_eq_nil asks₂, Cycle.heardBy_eq_nil asks₃]
  | volumes =>
    refine ⟨heal, l₂, asked, ⟨before ++ l₁, l₃ ++ after, by simp⟩, ?_, hscaled⟩
    simp [Cycle.heardBy_append, outside, Cycle.heardBy_of_askedBy asks₂,
      Cycle.heardBy_eq_nil asks₁, Cycle.heardBy_eq_nil asks₃]
  | drift =>
    refine ⟨heal, l₃, asked, ⟨before ++ l₁ ++ l₂, after, by simp⟩, ?_, hmitigated⟩
    simp [Cycle.heardBy_append, outside, Cycle.heardBy_of_askedBy asks₃,
      Cycle.heardBy_eq_nil asks₁, Cycle.heardBy_eq_nil asks₂]

/-- A cycle that heals is made of what its evaluators add. -/
theorem exists_shares (h : (o.cycle key c).Ends log (.healed f a closing)) :
    ∃ share t, ⟨.wallClock, t⟩ ∈ log ∧ a = .sum share ∧ ∀ e, o.Adds f c t e log (share e) := by
  have others {α : Type} {p : Cycle α} {l : Cycle.Log} {x : α} (asks : p.Ordinary none c.deadline)
      (ends : p.Ends l x) : ∀ e ∈ l, e.1.AskedBy none :=
    fun e he => ((asks.of_ends ends).1 e he).asked
  obtain ⟨l₁, rest, heal, rfl, read, asked, heals⟩ := heals_of_ends_cycle h
  have reading := others ordinary_readFleet read
  cases heals with
  | @cancelled l₂ l l₃ t _ timed evaluated looked =>
    obtain ⟨share, hsum, adds⟩ := exists_shares_of_evaluate asked evaluated
      (List.forall_mem_append.2 ⟨reading, others (ordinary_wallClock _) timed⟩)
      (others CycleContext.ordinary_isCancelled looked)
    refine ⟨share, t, by simp [Program.ends_put_iff.1 timed], hsum, ?_⟩
    rwa [List.append_assoc l₁, List.append_assoc l₁] at adds
  | @concluded l₂ l l₃ l₄ t _ _ timed evaluated looked concluded =>
    have back := (keeps_evaluate.of_ends evaluated).2
    obtain ⟨share, hsum, adds⟩ := exists_shares_of_evaluate asked evaluated
      (List.forall_mem_append.2 ⟨reading, others (ordinary_wallClock _) timed⟩)
      (List.forall_mem_append.2 ⟨others CycleContext.ordinary_isCancelled looked,
        others (ordinary_conclude back) concluded⟩)
    refine ⟨share, t, by simp [Program.ends_put_iff.1 timed], hsum, ?_⟩
    simpa only [List.append_assoc] using adds

theorem Undisturbed.exists_shares (h : o.Undisturbed key f now c log a closing) :
    ∃ share, a = .sum share ∧ ∀ e, o.Adds f c now e log (share e) := by
  obtain ⟨share, t, ht, hsum, adds⟩ := Orchestrator.exists_shares h.ends
  rw [h.shows t ht] at adds
  exact ⟨share, hsum, adds⟩

/-- A cycle that is not disturbed is not cancelled. -/
theorem Undisturbed.not_cancelled (h : o.Undisturbed key f now c log a closing) :
    closing ≠ .cancelled := by
  rintro rfl
  obtain ⟨l₁, rest, heal, rfl, read, asked, heals⟩ := heals_of_ends_cycle h.ends
  cases heals with
  | cancelled timed evaluated looked =>
    have free := (List.forall_mem_append.1 (List.forall_mem_append.1 h.unhindered).2).2
    exact Bool.noConfusion (CycleContext.eq_false_of_ends_isCancelled looked free)
  | concluded timed evaluated looked concluded =>
    obtain ⟨l₃, l₄, r, -, -, after⟩ := Program.ends_bind_iff.1 concluded
    cases r with
    | error e =>
      obtain ⟨u, rest, -, done⟩ := Program.ends_ask_iff.1 after
      cases (Program.ends_done_iff.1 done).2
    | ok u =>
      obtain ⟨l₅, l₆, u, -, -, done⟩ := Program.ends_bind_iff.1 after
      cases (Program.ends_done_iff.1 done).2

/-- In two cycles, an evaluator that hears the same adds the same. -/
theorem Undisturbed.adds_eq {e : Evaluator}
    (cycle₁ : o.Undisturbed key f now c₁ log₁ a₁ closing₁)
    (cycle₂ : o.Undisturbed key f now c₂ log₂ a₂ closing₂) {b₁ b₂ : Contribution}
    (adds₁ : o.Adds f c₁ now e log₁ b₁) (adds₂ : o.Adds f c₂ now e log₂ b₂)
    (alike : Alike (Cycle.heardBy e log₁) (Cycle.heardBy e log₂)) :
    Cycle.heardBy e log₁ = Cycle.heardBy e log₂ ∧ b₁ = b₂ := by
  obtain ⟨heal, l₁, asked, part₁, hears₁, ends₁⟩ := adds₁
  obtain ⟨heal', l₂, asked', part₂, hears₂, ends₂⟩ := adds₂
  obtain rfl : heal = heal' := Option.some.inj (asked.symm.trans asked')
  rw [hears₁, hears₂] at alike ⊢
  obtain ⟨same, -, result⟩ := (twins_evaluator e).eq ends₁ ends₂
    (fun x hx => cycle₁.unhindered x (part₁.subset hx))
    (fun x hx => cycle₂.unhindered x (part₂.subset hx)) alike
  exact ⟨same, result⟩

end Orchestrator

/-! ### The share of pruning -/

/-- A failure at most, and that of a step of pruning. -/
def OfPruning (failures : List ControlError) : Prop :=
  failures.length ≤ 1 ∧ ∀ e ∈ failures, ∃ reason, e = .prune reason

/-- A step changes nothing but the status of pruning. -/
theorem Advance.prunes {f : Fleet} {patch : Patch} {events : List Event}
    (a : Advance f patch events) : ∀ op ∈ patch, op.prunes = true := by
  have opens : ∀ op ∈ opening f.status, op.prunes = true := by
    intro op hop
    unfold opening at hop
    split at hop
    · rw [List.mem_singleton.1 hop]
      rfl
    · cases hop
  cases a with
  | stays => exact opens
  | takesOut =>
    refine List.forall_mem_append.2 ⟨opens, ?_⟩
    simp [takeOut, StatusOp.prunes]
  | signalled => simp [StatusOp.prunes, or_imp, forall_and]
  | replaced | pruned | restored | reset => simp [StatusOp.prunes]

/-- Pruning changes nothing but its own status. -/
theorem keeps_prune_patch {timing : PruningTiming} {f : Fleet} {spec : PruningSpec}
    {c : CycleContext} {now : Time} :
    (prune timing f spec c now).Keeps (fun _ => True) fun a =>
      ∀ op ∈ a.patch, op.prunes = true := by
  have changes : ∀ log step, (pruneStep timing f spec now).Ends log step →
      ∀ op ∈ step.patch, op.prunes = true := fun _ _ h => (Advance.of_ends h).prunes
  refine (CycleContext.keeps_withinDeadline trivial
    (fun _ => .of_forall (fun _ => trivial) (fun _ => trivial) _) changes).bind fun r hr => ?_
  cases r with
  | error e => exact fun _ hop => absurd hop List.not_mem_nil
  | ok step =>
    exact (Cycle.keeps_announceAll fun _ _ => trivial).bind fun _ _ => hr step rfl

/-- Unless the cycle is hindered, pruning fails where its step does. -/
theorem ofPruning_of_ends {timing : PruningTiming} {f : Fleet} {spec : PruningSpec}
    {c : CycleContext} {now : Time} {log : Cycle.Log} {a : Contribution}
    (h : (prune timing f spec c now).Ends log a)
    (free : ∀ e ∈ log, e.1.Unhindered c.deadline e.2) : OfPruning a.failures := by
  obtain ⟨l₁, l₂, r, rfl, asked, after⟩ := Program.ends_bind_iff.1 h
  obtain ⟨step, rfl⟩ :=
    CycleContext.ok_of_ends_withinDeadline asked (List.forall_mem_append.1 free).1
  obtain ⟨l₃, l₄, u, rfl, told, done⟩ := Program.ends_bind_iff.1 after
  obtain ⟨rfl, rfl⟩ := Program.ends_done_iff.1 done
  change OfPruning (step.error.map .prune).toList
  cases step.error with
  | none => exact ⟨Nat.zero_le 1, fun _ he => absurd he List.not_mem_nil⟩
  | some reason => exact ⟨Nat.le_refl 1, fun _ he => ⟨reason, List.mem_singleton.1 he⟩⟩

namespace Orchestrator

section

variable {o : Orchestrator} {key : FleetKey} {f : Fleet} {c c₁ c₂ : CycleContext} {now : Time}
  {log log₁ log₂ : Cycle.Log} {a a₁ a₂ b : Contribution} {closing closing₁ closing₂ : Closing}

theorem Adds.prunes (h : o.Adds f c now .pruning log b) : ∀ op ∈ b.patch, op.prunes = true := by
  obtain ⟨heal, l, -, -, -, ends⟩ := h
  exact ((keeps_whenSet (fun _ hop => absurd hop List.not_mem_nil)
    fun _ => keeps_prune_patch).of_ends ends).2

/-- The other evaluators leave the status of pruning alone. -/
theorem Adds.aside {e : Evaluator} (h : o.Adds f c now e log b) (other : e ≠ .pruning) :
    b.Aside := by
  obtain ⟨heal, l, -, -, -, ends⟩ := h
  cases e with
  | pruning => exact absurd rfl other
  | volumes =>
    exact ((keeps_whenSet Contribution.aside_empty fun _ => keeps_autoscale).of_ends ends).2
  | drift =>
    exact ((keeps_whenSet Contribution.aside_empty fun _ => keeps_mitigateDrift).of_ends ends).2

theorem Undisturbed.ofPruning (cycle : o.Undisturbed key f now c log a closing)
    (h : o.Adds f c now .pruning log b) : OfPruning b.failures := by
  obtain ⟨heal, l, -, part, -, ends⟩ := h
  change (whenSet heal.pruning _).Ends l b at ends
  cases hspec : heal.pruning with
  | none =>
    rw [hspec] at ends
    obtain ⟨-, rfl⟩ := Program.ends_done_iff.1 ends
    exact ⟨Nat.zero_le 1, fun _ he => absurd he List.not_mem_nil⟩
  | some spec =>
    rw [hspec] at ends
    exact ofPruning_of_ends ends fun x hx => cycle.unhindered x (part.subset hx)

/-- The changes of a cycle that are none of pruning's are those of the other evaluators. -/
theorem filter_patch_sum {share : Evaluator → Contribution}
    (adds : ∀ e, o.Adds f c now e log (share e)) :
    (Contribution.sum share).patch.filter (!·.prunes) =
      (share .volumes).patch ++ (share .drift).patch := by
  have gone : (share .pruning).patch.filter (!·.prunes) = [] :=
    List.filter_eq_nil_iff.2 fun op hop => by simp [(adds .pruning).prunes op hop]
  have kept (e : Evaluator) (other : e ≠ .pruning) :
      (share e).patch.filter (!·.prunes) = (share e).patch :=
    List.filter_eq_self.2 fun op hop => by simp [((adds e).aside other).patch op hop]
  rw [Contribution.sum, Contribution.patch_append, Contribution.patch_append, List.filter_append,
    List.filter_append, gone, kept .volumes nofun, kept .drift nofun, List.nil_append]

/-- **Independence.**  Two cycles of the same fleet at the same time that are over before their
deadlines and before a shutdown.  Where pruning hears something else in the one than in the other,
but volumes and drift hear the same, both cycles delete the same, make the same changes but for
those of pruning, and report the same, but for a failure of pruning at the beginning and the end of
the cycle.  Where something else is heard of the volumes only, both cycles delete the same, and
pruning and drift add the same. -/
theorem independent (cycle₁ : o.Undisturbed key f now c₁ log₁ a₁ closing₁)
    (cycle₂ : o.Undisturbed key f now c₂ log₂ a₂ closing₂) :
    ((∀ e ≠ Evaluator.pruning, Alike (Cycle.heardBy e log₁) (Cycle.heardBy e log₂)) →
      Cycle.removed log₁ = Cycle.removed log₂ ∧
      a₁.patch.filter (!·.prunes) = a₂.patch.filter (!·.prunes) ∧
      ∃ p₁ p₂ rest, OfPruning p₁ ∧ OfPruning p₂ ∧ closing₁ ≠ .cancelled ∧ closing₂ ≠ .cancelled ∧
        (o.outcome (.healed f a₁ closing₁)).failures.items = p₁ ++ rest ++ closing₁.failures ∧
        (o.outcome (.healed f a₂ closing₂)).failures.items = p₂ ++ rest ++ closing₂.failures) ∧
    ((∀ e ≠ Evaluator.volumes, Alike (Cycle.heardBy e log₁) (Cycle.heardBy e log₂)) →
      Cycle.removed log₁ = Cycle.removed log₂ ∧
      ∃ share₁ share₂, a₁ = .sum share₁ ∧ a₂ = .sum share₂ ∧
        (∀ e, o.Adds f c₁ now e log₁ (share₁ e) ∧ o.Adds f c₂ now e log₂ (share₂ e)) ∧
        ∀ e ≠ Evaluator.volumes, share₁ e = share₂ e) := by
  obtain ⟨share₁, rfl, adds₁⟩ := cycle₁.exists_shares
  obtain ⟨share₂, rfl, adds₂⟩ := cycle₂.exists_shares
  have same (e : Evaluator) (alike : Alike (Cycle.heardBy e log₁) (Cycle.heardBy e log₂)) :=
    cycle₁.adds_eq cycle₂ (adds₁ e) (adds₂ e) alike
  constructor
  · intro alike
    obtain ⟨-, scales⟩ := same .volumes (alike .volumes (by decide))
    obtain ⟨hears, mitigates⟩ := same .drift (alike .drift (by decide))
    refine ⟨by rw [Cycle.removed_eq, Cycle.removed_eq, hears], ?_, (share₁ .pruning).failures,
      (share₂ .pruning).failures, (share₁ .volumes).failures ++ (share₁ .drift).failures,
      cycle₁.ofPruning (adds₁ .pruning), cycle₂.ofPruning (adds₂ .pruning),
      cycle₁.not_cancelled, cycle₂.not_cancelled, ?_, ?_⟩
    · rw [filter_patch_sum adds₁, filter_patch_sum adds₂, scales, mitigates]
    · simp [outcome, Contribution.sum]
    · simp [outcome, Contribution.sum, scales, mitigates]
  · intro alike
    obtain ⟨hears, -⟩ := same .drift (alike .drift (by decide))
    exact ⟨by rw [Cycle.removed_eq, Cycle.removed_eq, hears], share₁, share₂, rfl, rfl,
      fun e => ⟨adds₁ e, adds₂ e⟩, fun e other => (same e (alike e other)).2⟩

end

end Orchestrator

/-! ### Two cycles in an outage

In one of two cycles pruning gets to see pods to take out, and in the other none.  The store is
down, so the one cycle cannot store its changes; the other has nothing to store. -/

namespace Outage

open Laggard (key context orchestrator now)

/-- Pruning gets to see no pods. -/
def unseen : Sight := ⟨some (.ok usage), some [], none⟩

theorem ends_unseen : (orchestrator.conclude key context (contribution unseen)).Ends [] .stored :=
  .done _

theorem undisturbed {x : Sight} {l : Cycle.Log} {r : Closing}
    (concluded : (orchestrator.conclude key context (contribution x)).Ends l r)
    (instant : (log x l).all (fun e => e.1.instant 0 now e.2) = true) :
    orchestrator.Undisturbed key fleet now context (log x l) (contribution x) r := by
  have instant := List.all_eq_true.1 instant
  refine ⟨ends_log concluded, fun t ht => of_decide_eq_true (instant _ ht), none, 0, 0, ?_, ?_, rfl⟩
  · exact .of_instant instant
  · decide

theorem alike {e : Evaluator} (other : e ≠ .pruning) :
    Alike (Cycle.heardBy e (log Laggard.sight closing)) (Cycle.heardBy e (log unseen [])) := by
  cases e with
  | pruning => exact absurd rfl other
  | volumes => exact .refl _
  | drift => exact .refl _

end Outage

open Outage Laggard in
/-- One of the volumes fails in both cycles, and the end of one of them besides. -/
theorem Orchestrator.independent_outage :
    orchestrator.Undisturbed key Outage.fleet now context (Outage.log sight closing)
        (Outage.contribution sight) (.failed down) ∧
      orchestrator.Undisturbed key Outage.fleet now context (Outage.log unseen [])
        (Outage.contribution unseen) .stored ∧
      (Outage.contribution sight).patch.filter (!·.prunes) =
        (Outage.contribution unseen).patch.filter (!·.prunes) := by
  have cycle₁ : orchestrator.Undisturbed key Outage.fleet now context (Outage.log sight closing)
      (Outage.contribution sight) (.failed down) := undisturbed ends_closing rfl
  have cycle₂ : orchestrator.Undisturbed key Outage.fleet now context (Outage.log unseen [])
      (Outage.contribution unseen) .stored := undisturbed ends_unseen rfl
  obtain ⟨beside, -⟩ := independent cycle₁ cycle₂
  obtain ⟨-, changes, -⟩ := beside fun e other => alike other
  exact ⟨cycle₁, cycle₂, changes⟩

open Outage Laggard in
/-- **Not the end.**  What a cycle reports of its end may be owed to pruning, after all that the
other evaluators report. -/
theorem Orchestrator.failures_beside_outage :
    ¬∀ (o : Orchestrator) (key : FleetKey) (f : Fleet) (now : Time) (c₁ c₂ : CycleContext)
        (log₁ log₂ : Cycle.Log) (a₁ a₂ : Contribution) (closing₁ closing₂ : Closing),
      o.Undisturbed key f now c₁ log₁ a₁ closing₁ → o.Undisturbed key f now c₂ log₂ a₂ closing₂ →
        (∀ e ≠ Evaluator.pruning, Alike (Cycle.heardBy e log₁) (Cycle.heardBy e log₂)) →
        ∃ p₁ p₂ rest : List ControlError, p₁.length ≤ 1 ∧ p₂.length ≤ 1 ∧
          (o.outcome (.healed f a₁ closing₁)).failures.items = p₁ ++ rest ∧
          (o.outcome (.healed f a₂ closing₂)).failures.items = p₂ ++ rest := by
  intro leads
  obtain ⟨p₁, p₂, rest, short₁, short₂, items₁, items₂⟩ :=
    leads orchestrator key Outage.fleet now context context _ _ _ _ _ _
      (undisturbed (x := sight) ends_closing rfl) (undisturbed (x := unseen) ends_unseen rfl)
      fun e other => alike other
  obtain ⟨e, fails⟩ : ∃ e, plan.contribution.failures = [.health e] := ⟨_, rfl⟩
  have both : [.health e, down] = p₁ ++ rest := by
    rw [← items₁, ← List.singleton_append, ← fails]
    rfl
  have one : [.health e] = p₂ ++ rest := by
    rw [← items₂, ← fails]
    rfl
  -- Of two failures one at most may stand before the rest, so both cycles would end in `down`.
  rcases p₁ with _ | ⟨x, _ | ⟨y, p₁⟩⟩
  · rw [List.nil_append] at both
    rw [← both] at one
    simpa using congrArg List.length one
  · cases both
    simpa [down] using congrArg List.getLast? one
  · exact absurd short₁ (by simp)

end FleetMend
