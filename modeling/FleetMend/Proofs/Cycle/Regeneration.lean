import FleetMend.Proofs.Cycle.Atomicity
import FleetMend.Proofs.Cycle.Availability
import FleetMend.Proofs.Health.Triggers

/-!
The claims of the pods whose regeneration a cycle sets off.

Whether a failure is one too many is decided twice: when the pod is deleted, as the status was read
then, and its claim is deleted with it; and when the changes are stored, as the status is by then,
and the pod is marked.

* `DriftSetting.LosesClaim`: the replies to which a claim is gone.  `Cycle.ClaimGone`: a dialogue in
  whose course the claim of a pod was deleted, or found gone.
* `Remediation.Accounted`: the deletions of a cycle so far have the claims gone of all pods that
  their changes mark, as the status was read.
* `Orchestrator.regenerates_of_triggers`: the claim of a pod that a cycle marks is gone, unless
  others have logged failures of the pod in the meantime that make up what was missing.
* `Orchestrator.marked_with_claim`: that case happens.
-/

namespace FleetMend

/-- An object is deleted, or is gone already. -/
def Removed (reply : Except ControlError Unit) : Prop :=
  reply = .ok () ∨ ∃ kind name, reply = .error (.notFound kind name)

theorem ignoreNotFound_eq_ok_iff {reply : Except ControlError Unit} :
    ignoreNotFound reply = .ok () ↔ Removed reply := by
  rcases reply with e | u
  · cases e <;> simp [ignoreNotFound, ControlError.isNotFound, Removed]
  · exact iff_of_true rfl (.inl rfl)

/-- A deletion that is given up is none, so an object is gone only where there is a reply. -/
theorem CycleContext.removed_of_ends_run {c : CycleContext} {operation : String} {millis : Nat}
    {errand : Errand (Except ControlError Unit)} {log : Cycle.Log} {r : Except ControlError Unit}
    (ends : (c.run operation millis errand).Ends log r) (ok : ignoreNotFound r = .ok ()) :
    ∃ (now : Nat) (rest : Cycle.Log), log = ⟨.clock, now⟩ :: rest ∧
      (Cycle.within (min (now + millis) c.deadline) errand).Ends rest (.ok r) ∧ Removed r := by
  have gone := ignoreNotFound_eq_ok_iff.1 ok
  obtain ⟨x, bounded, rfl⟩ := Program.ends_map_iff.1 ends
  obtain ⟨now, answer, rest, rfl, within, rfl⟩ := CycleContext.ends_bound_iff.1 bounded
  rcases answer with (_ | _) | reply
  · cases ok
  · cases ok
  · exact ⟨now, rest, rfl, within, gone⟩

namespace DriftSetting

/-- The dialogue in which no claim of the pod is found, or its claim is found, and then deleted or
gone by then. -/
inductive LosesClaim (s : DriftSetting) (pod : Pod) : Cycle.Log → Prop
  | absent {now : Nat} :
    LosesClaim s pod (s.context.replied s.io now (.readClaim pod.space pod.claim) (.ok none))
  | removed {now now' : Nat} {claim : VolumeClaim} {reply : Except ControlError Unit}
      (gone : Removed reply) :
    LosesClaim s pod
      (s.context.replied s.io now (.readClaim pod.space pod.claim) (.ok (some claim)) ++
        s.context.replied s.io now' (.deleteClaim claim) reply)

/-- The claim of a pod is gone in no other dialogue. -/
theorem ends_regenerateClaim_ok_iff {s : DriftSetting} {pod : Pod} {log : Cycle.Log} :
    (s.regenerateClaim pod).Ends log (.ok ()) ↔ s.LosesClaim pod log := by
  constructor
  · intro h
    obtain ⟨l₁, l₂, x, rfl, reading, after⟩ := Program.ends_bind_iff.1 h
    rcases x with e | _ | claim
    · obtain ⟨-, he⟩ := Program.ends_done_iff.1 after
      cases he
    · obtain ⟨now, asked, rfl, answered⟩ := CycleContext.ends_run_ok_iff.1 reading
      obtain ⟨rfl, -⟩ := Program.ends_done_iff.1 after
      rw [Cycle.ends_within_call_iff.1 answered]
      exact .absent
    · obtain ⟨now, asked, rfl, answered⟩ := CycleContext.ends_run_ok_iff.1 reading
      obtain ⟨reply, deleting, ok⟩ := Program.ends_map_iff.1 after
      obtain ⟨now', rest, rfl, within, gone⟩ := CycleContext.removed_of_ends_run deleting ok.symm
      rw [Cycle.ends_within_call_iff.1 answered, Cycle.ends_within_call_iff.1 within]
      exact .removed gone
  · intro h
    cases h with
    | absent =>
      exact Program.ends_bind_iff.2 ⟨_, [], .ok none, (List.append_nil _).symm,
        Program.ends_map_iff.2 ⟨_, CycleContext.ends_bound_call, rfl⟩, .done _⟩
    | @removed now now' claim reply gone =>
      have deleted : (ignoreNotFound <$> s.context.run "delete pvc" s.io
          (Errand.call (.deleteClaim claim))).Ends
          (s.context.replied s.io now' (.deleteClaim claim) reply) (.ok ()) :=
        Program.ends_map_iff.2 ⟨reply, Program.ends_map_iff.2
          ⟨_, CycleContext.ends_bound_call, rfl⟩, (ignoreNotFound_eq_ok_iff.2 gone).symm⟩
      exact Program.ends_bind_iff.2 ⟨_, _, .ok (some claim), rfl,
        Program.ends_map_iff.2 ⟨_, CycleContext.ends_bound_call, rfl⟩, deleted⟩

end DriftSetting

/-- In the course of the dialogue the claim of a pod was deleted, or found gone. -/
def Cycle.ClaimGone (log : Cycle.Log) (pod : Pod) : Prop :=
  ∃ (s : DriftSetting) (l : Cycle.Log), s.LosesClaim pod l ∧ l <:+: log

/-- A pod of the name was deleted, and its claim is gone. -/
def Cycle.Regenerates (log : Cycle.Log) (name : String) : Prop :=
  ∃ pod ∈ Cycle.deleted log, pod.name = name ∧ Cycle.ClaimGone log pod

namespace Cycle

variable {log log' : Cycle.Log} {name : String} {pod : Pod}

theorem ClaimGone.mono (h : ClaimGone log pod) (hl : log <:+: log') : ClaimGone log' pod := by
  obtain ⟨s, l, loses, part⟩ := h
  exact ⟨s, l, loses, part.trans hl⟩

/-- Before a claim is gone it is asked for. -/
theorem ClaimGone.reads (h : ClaimGone log pod) :
    ∃ limit, .await (.call (.readClaim pod.space pod.claim)) limit ∈ log.map (·.1) := by
  obtain ⟨s, l, loses, part⟩ := h
  have asked := (part.map (·.1)).subset
  cases loses with
  | absent | removed => exact ⟨_, asked (List.mem_cons_of_mem _ List.mem_cons_self)⟩

theorem Regenerates.mono (h : Regenerates log name) (hl : log <:+: log') :
    Regenerates log' name := by
  obtain ⟨pod, hpod, rfl, gone⟩ := h
  exact ⟨pod, (hl.sublist.filterMap _).subset hpod, rfl, gone.mono hl⟩

end Cycle

/-! ### Deletions -/

/-- The deletions go by the failures as the changes so far leave them in the status that was read,
and the claims are gone of all pods that these changes mark in it. -/
structure Remediation.Accounted (r : Remediation) (read : FleetStatus) (log : Cycle.Log) :
    Prop where
  counted : ∀ name, r.working.failureLog name = (r.contribution.patch.apply read).failureLog name
  gone : ∀ name ∈ r.contribution.patch.triggers read, Cycle.Regenerates log name

namespace Remediation.Accounted

variable {r : Remediation} {read : FleetStatus} {log log' : Cycle.Log}

theorem mono (h : r.Accounted read log) (hl : log <:+: log') : r.Accounted read log' :=
  ⟨h.counted, fun name hm => (h.gone name hm).mono hl⟩

theorem failed (h : r.Accounted read log) (e : ControlError) :
    (r.add (.failed e)).Accounted read log := by
  have same : (r.add (.failed e)).contribution.patch = r.contribution.patch := List.append_nil _
  refine ⟨?_, ?_⟩
  · rw [same]
    exact h.counted
  · rw [same]
    exact h.gone

/-- A failure is logged, and the claim is gone of the pod that it marks. -/
theorem logged (h : r.Accounted read log) {op : StatusOp} {actions : List Event}
    (gone : ∀ name ∈ op.triggers r.working, Cycle.Regenerates log name) :
    (r.logged op (op.apply r.working).1 actions).Accounted read log := by
  have longer : (r.logged op (op.apply r.working).1 actions).contribution.patch =
    r.contribution.patch ++ [op] := rfl
  refine ⟨fun name => ?_, fun name hm => ?_⟩
  · rw [longer, Patch.apply_append]
    exact StatusOp.failureLog_congr (h.counted name)
  · rw [longer, Patch.triggers_append, List.mem_append] at hm
    rcases hm with hm | hm
    · exact h.gone name hm
    · -- The deletions go by the failures that the changes before this one leave.
      rw [Patch.triggers, Patch.triggers, List.append_nil,
        ← StatusOp.mem_triggers_congr (h.counted name)] at hm
      exact gone name hm

end Remediation.Accounted

namespace DriftSetting

variable {s : DriftSetting} {pods : List Pod} {pod : Pod} {r r' : Remediation}
  {log log' : Cycle.Log} {read : FleetStatus}

theorem accounted_of_ends_logFailure {tracker : Tracker} (h : r.Accounted read log)
    (hpod : pod ∈ Cycle.deleted log) (ends : (s.logFailure tracker pod r).Ends log' r') :
    r'.Accounted read (log ++ log') := by
  have prior := h.mono (List.prefix_append log log').isInfix
  unfold logFailure at ends
  dsimp only at ends
  split at ends
  · obtain ⟨l₁, l₂, x, rfl, regenerating, after⟩ := Program.ends_bind_iff.1 ends
    cases x with
    | error e =>
      obtain ⟨l₃, l₄, u, rfl, -, done⟩ := Program.ends_bind_iff.1 after
      obtain ⟨-, rfl⟩ := Program.ends_done_iff.1 done
      exact prior.failed e
    | ok u =>
      obtain ⟨rfl, rfl⟩ := Program.ends_done_iff.1 after
      rw [List.append_nil] at prior ⊢
      refine prior.logged fun name hm => ?_
      obtain ⟨rfl, -⟩ := StatusOp.mem_triggers_recordFailure.1 hm
      refine ⟨pod, ?_, rfl, s, l₁, ends_regenerateClaim_ok_iff.1 regenerating,
        (List.suffix_append log l₁).isInfix⟩
      rw [Cycle.deleted_append]
      exact List.mem_append_left _ hpod
  · next below =>
    obtain ⟨rfl, rfl⟩ := Program.ends_done_iff.1 ends
    refine prior.logged fun name hm => ?_
    obtain ⟨-, exceeded⟩ := StatusOp.mem_triggers_recordFailure.1 hm
    exact absurd exceeded below

theorem accounted_of_ends_afterDelete {reply : Except ControlError Unit} (h : r.Accounted read log)
    (hpod : pod ∈ Cycle.deleted log) (ends : (s.afterDelete r pod reply).Ends log' r') :
    r'.Accounted read (log ++ log') := by
  have prior := h.mono (List.prefix_append log log').isInfix
  unfold afterDelete at ends
  cases hreply : ignoreNotFound reply with
  | error e =>
    rw [hreply] at ends
    obtain ⟨l₁, l₂, u, rfl, -, done⟩ := Program.ends_bind_iff.1 ends
    obtain ⟨-, rfl⟩ := Program.ends_done_iff.1 done
    exact prior.failed e
  | ok u =>
    rw [hreply] at ends
    have counted : ({ r with deleted := r.deleted + 1 } : Remediation).Accounted read log :=
      ⟨h.counted, h.gone⟩
    cases hspec : s.spec.regenerate with
    | none =>
      simp only [hspec] at ends
      obtain ⟨-, rfl⟩ := Program.ends_done_iff.1 ends
      exact ⟨prior.counted, prior.gone⟩
    | some regenerate =>
      simp only [hspec] at ends
      exact accounted_of_ends_logFailure counted hpod ends

theorem accounted_of_ends_remedy (h : r.Accounted read log)
    (ends : (s.remedy r pod).Ends log' r') : r'.Accounted read (log ++ log') := by
  obtain ⟨l₁, l₂, x, rfl, asked, after⟩ := Program.ends_bind_iff.1 ends
  obtain ⟨y, bounded, -⟩ := Program.ends_map_iff.1 asked
  obtain ⟨now, answer, rfl, -⟩ := CycleContext.ends_bound_call_iff.1 bounded
  rw [← List.append_assoc]
  refine accounted_of_ends_afterDelete (h.mono (List.prefix_append log _).isInfix) ?_ after
  rw [Cycle.deleted_append]
  exact List.mem_append_right _ List.mem_cons_self

/-- However many pods are deleted, whatever the replies: the claims of those that the changes mark
are gone. -/
theorem accounted_of_ends_foldlM (h : r.Accounted read log)
    (ends : (pods.foldlM s.remedy r).Ends log' r') : r'.Accounted read (log ++ log') := by
  induction pods generalizing r log log' with
  | nil =>
    obtain ⟨rfl, rfl⟩ := Program.ends_done_iff.1 ends
    rwa [List.append_nil]
  | cons pod pods ih =>
    rw [List.foldlM_cons] at ends
    obtain ⟨l₁, l₂, r₁, rfl, first, others⟩ := Program.ends_bind_iff.1 ends
    rw [← List.append_assoc]
    exact ih (accounted_of_ends_remedy h first) others

end DriftSetting

/-- Drift has the claims gone of all pods that its changes mark in the status of its snapshot. -/
theorem regenerates_of_ends_mitigateDrift {minReady : Span} {s : DriftSetting} {log : Cycle.Log}
    {contribution : Contribution} (h : (mitigateDrift minReady s).Ends log contribution) :
    ∀ name ∈ contribution.patch.triggers s.fleet.status, Cycle.Regenerates log name := by
  obtain ⟨l₁, l₂, x, rfl, asked, after⟩ := Program.ends_bind_iff.1 h
  cases x with
  | error e =>
    obtain ⟨-, rfl⟩ := Program.ends_done_iff.1 after
    exact fun _ hm => absurd hm List.not_mem_nil
  | ok items =>
    obtain ⟨l₃, l₄, r, rfl, deleting, telling⟩ := Program.ends_bind_iff.1 after
    obtain ⟨l₅, l₆, u, rfl, -, done⟩ := Program.ends_bind_iff.1 telling
    obtain ⟨-, rfl⟩ := Program.ends_done_iff.1 done
    have start : Remediation.Accounted
        { working := s.fleet.status
          contribution := { patch :=
            [.setSyncInfo (deriveSyncInfo items s.fleet.status.syncInfo)] } } s.fleet.status [] :=
      ⟨fun _ => rfl, fun _ hm => absurd hm List.not_mem_nil⟩
    have accounted := DriftSetting.accounted_of_ends_foldlM start deleting
    exact fun name hm => (accounted.gone name hm).mono ⟨l₁, l₅ ++ l₆, by simp⟩

/-! ### Evaluators that log nothing -/

/-- The contribution logs no failure. -/
def Contribution.Unlogged (c : Contribution) : Prop := ∀ op ∈ c.patch, op.logs = false

theorem Contribution.unlogged_empty : ({} : Contribution).Unlogged :=
  fun _ hm => absurd hm List.not_mem_nil

theorem not_logs_of_mem_opening {s : FleetStatus} {op : StatusOp} (h : op ∈ opening s) :
    op.logs = false := by
  unfold opening at h
  split at h
  · obtain rfl := List.mem_singleton.1 h
    rfl
  · cases h

/-- Pruning keeps no account of failures. -/
theorem Advance.not_logs {f : Fleet} {patch : Patch} {events : List Event}
    (a : Advance f patch events) : ∀ op ∈ patch, op.logs = false := by
  intro op h
  cases a with
  | stays => exact not_logs_of_mem_opening h
  | takesOut =>
    rcases List.mem_append.1 h with h | h
    · exact not_logs_of_mem_opening h
    · simp only [takeOut, List.mem_cons, List.not_mem_nil, or_false] at h
      rcases h with rfl | rfl <;> rfl
  | replaced | pruned =>
    obtain rfl := List.mem_singleton.1 h
    rfl
  | signalled =>
    rcases List.mem_append.1 h with h | h
    · obtain ⟨key, -, rfl⟩ := List.mem_map.1 h
      rfl
    · obtain rfl := List.mem_singleton.1 h
      rfl
  | restored | reset =>
    simp only [List.mem_cons, List.not_mem_nil, or_false] at h
    rcases h with rfl | rfl <;> rfl

theorem unlogged_prune {timing : PruningTiming} {f : Fleet} {spec : PruningSpec} {c : CycleContext}
    {now : Time} : (prune timing f spec c now).Keeps (fun _ => True) Contribution.Unlogged := by
  have silent : ∀ log step, (pruneStep timing f spec now).Ends log step →
      ∀ op ∈ step.patch, op.logs = false := fun _ _ h => (Advance.of_ends h).not_logs
  refine (CycleContext.keeps_withinDeadline trivial
    (fun limit => (spares_pruneStep.await limit).mono (fun _ _ => trivial) fun _ h => h)
    silent).bind fun r hr => ?_
  cases r with
  | error e => exact Contribution.unlogged_empty
  | ok step => exact (Cycle.keeps_announceAll fun _ _ => trivial).bind fun _ _ => hr step rfl

theorem unlogged_autoscale {io : Nat} {f : Fleet} {spec : AutoscaleSpec} {c : CycleContext}
    {now : Time} : (autoscale io f spec c now).Keeps (fun _ => True) Contribution.Unlogged := by
  have spares : (readUsage f).Spares := (Errand.spares_call rfl rfl).map
  refine (CycleContext.keeps_run trivial
    fun limit => (spares.await limit).mono (fun _ _ => trivial) fun _ h => h).bind fun r _ => ?_
  cases r with
  | error e => exact (Program.Keeps.put trivial).bind fun _ _ => Contribution.unlogged_empty
  | ok samples =>
    refine (Cycle.keeps_announceAll fun _ _ => trivial).bind fun _ _ op hop => ?_
    obtain ⟨request, -, rfl⟩ := List.mem_map.1 hop
    rfl

namespace Orchestrator

variable {o : Orchestrator} {key : FleetKey} {c : CycleContext} {f : Fleet} {heal : HealSpec}
  {now : Time} {log : Cycle.Log} {contribution : Contribution} {closing : Closing}

/-- A cycle has the claims gone of all pods that its changes mark in the status that it has read. -/
theorem regenerates_of_ends_evaluate (h : (o.evaluate f heal c now).Ends log contribution) :
    ∀ name ∈ contribution.patch.triggers f.status, Cycle.Regenerates log name := by
  obtain ⟨l₁, l₂, l₃, pruned, scaled, mitigated, rfl, rfl, hpruned, hscaled, hmitigated⟩ :=
    ends_evaluate_iff.1 h
  have first : pruned.Unlogged :=
    ((keeps_whenSet Contribution.unlogged_empty fun _ => unlogged_prune).of_ends hpruned).2
  have second : scaled.Unlogged :=
    ((keeps_whenSet Contribution.unlogged_empty fun _ => unlogged_autoscale).of_ends hscaled).2
  have others : ∀ op ∈ pruned.patch ++ scaled.patch, op.logs = false :=
    List.forall_mem_append.2 ⟨first, second⟩
  intro name hm
  -- Drift alone logs failures, and finds them as they were read.
  rw [Contribution.patch_append, Contribution.patch_append, Patch.triggers_append,
    Patch.triggers_of_not_logs others, List.nil_append,
    Patch.mem_triggers_congr (Patch.failureLog_of_not_logs others)] at hm
  cases hd : heal.drift with
  | none =>
    rw [hd] at hmitigated
    obtain ⟨-, rfl⟩ := Program.ends_done_iff.1 hmitigated
    exact absurd hm List.not_mem_nil
  | some drift =>
    rw [hd] at hmitigated
    exact (regenerates_of_ends_mitigateDrift hmitigated name hm).mono
      (List.suffix_append (l₁ ++ l₂) l₃).isInfix

/-- The evaluators of a cycle have run before it writes anything. -/
theorem exists_before_of_ends (h : (o.cycle key c).Ends log (.healed f contribution closing)) :
    ∃ heal now l before after, log = before ++ after ∧ (∀ e ∈ before, e.1.writes = false) ∧
      (o.evaluate f heal c now).Ends l contribution ∧ l <:+: before := by
  obtain ⟨l₁, rest, heal, rfl, read, asked, heals⟩ := heals_of_ends_cycle h
  have reads : ∀ e ∈ l₁, e.1.writes = false := fun e he =>
    ((keeps_readFleet.of_ends read).1 e he).1.1
  cases heals with
  | @cancelled l₂ l l₃ now _ timed evaluated looked =>
    have prepares := preliminary_of_ends timed evaluated looked
    exact ⟨heal, now, l, l₁ ++ (l₂ ++ l ++ l₃), [], (List.append_nil _).symm,
      List.forall_mem_append.2 ⟨reads, fun e he => (prepares e he).1⟩, evaluated,
      ⟨l₁ ++ l₂, l₃, by simp⟩⟩
  | @concluded l₂ l l₃ l₄ now _ _ timed evaluated looked concluded =>
    have prepares := preliminary_of_ends timed evaluated looked
    exact ⟨heal, now, l, l₁ ++ (l₂ ++ l ++ l₃), l₄, by simp,
      List.forall_mem_append.2 ⟨reads, fun e he => (prepares e he).1⟩, evaluated,
      ⟨l₁ ++ l₂, l₃, by simp⟩⟩

theorem fits_of_ends_cycle {s t : Store} {ws : List Write}
    (ends : (o.cycle key c).Ends log (.healed f contribution closing))
    (course : s.Course log ws t) : closing.Fits key contribution log ws := by
  obtain ⟨l₁, l₂, heal, rfl, read, asked, heals⟩ := heals_of_ends_cycle ends
  obtain ⟨u, ws₁, ws₂, course₁, course₂, rfl⟩ := course.of_append
  obtain ⟨rfl, silent⟩ := nothing_of_preliminary
    (fun e he => ((keeps_readFleet.of_ends read).1 e he).1) course₁
  exact (fits_of_heals heals course₂).append silent

/-- A write of a cycle makes all its changes in the status that is stored by then. -/
theorem eq_of_ends_cycle {s t : Store} {k : FleetKey} {g h : Fleet}
    (ends : (o.cycle key c).Ends log (.healed f contribution closing))
    (course : s.Course log [⟨k, g, h⟩] t) :
    k = key ∧
      h = { g with status := contribution.patch.apply g.status, version := g.version + 1 } := by
  have fits := fits_of_ends_cycle ends course
  by_cases stored : closing = .stored
  · cases fits.stored stored with
    | written => exact ⟨rfl, rfl⟩
  · cases fits.unstored stored

/-- **Regeneration.**  Where a cycle stores a change that marks a pod, a pod of this name was
deleted before in the same cycle, and its claim with it; or else the failures of the pod in the
status that the cycle had read were not too many yet, and others have changed them since. -/
theorem regenerates_of_triggers {s t : Store} {k : FleetKey} {g h : Fleet} {name : String}
    (ends : (o.cycle key c).Ends log (.healed f contribution closing))
    (course : s.Course log [⟨k, g, h⟩] t)
    (triggers : name ∈ contribution.patch.triggers g.status) :
    k = key ∧
      h = { g with status := contribution.patch.apply g.status, version := g.version + 1 } ∧
      ∃ before after, log = before ++ after ∧ (∀ e ∈ before, e.1.writes = false) ∧
        (Cycle.Regenerates before name ∨
          name ∉ contribution.patch.triggers f.status ∧
            f.status.failureLog name ≠ g.status.failureLog name) := by
  obtain ⟨hkey, hstored⟩ := eq_of_ends_cycle ends course
  obtain ⟨heal, now, l, before, after, hlog, prior, evaluated, hl⟩ := exists_before_of_ends ends
  refine ⟨hkey, hstored, before, after, hlog, prior, ?_⟩
  by_cases marked : name ∈ contribution.patch.triggers f.status
  · exact .inl ((regenerates_of_ends_evaluate evaluated name marked).mono hl)
  · exact .inr ⟨marked, fun same => marked ((Patch.mem_triggers_congr same).2 triggers)⟩

end Orchestrator

/-! ### A failure logged by others

The second failure of a pod is too many.  The cycle that deletes the pod has read a status without
failures; by the time it stores its changes another controller has logged one. -/

namespace Overtaken

open Laggard (slow items now key context orchestrator replied)

def tracker : Tracker := ⟨.ofSecs 300, 2⟩

def drift : DriftSpec := { threshold := 50, regenerate := some ⟨.ofSecs 300, 2⟩ }

def fleet : Fleet :=
  { key, version := 1, spec := { replicas := 3, heal := some { drift := some drift } } }

/-- The failure that the cycle logs. -/
def failure : StatusOp := .recordFailure "osmosis-1" now tracker

/-- The status with a failure that another controller has logged half a minute before. -/
def noted : FleetStatus :=
  ((StatusOp.recordFailure "osmosis-1" ⟨970000000000, false⟩ tracker).apply fleet.status).1

def overtaken : Fleet := { fleet with status := noted, version := 2 }

def contribution : Contribution :=
  { patch := [.setSyncInfo (deriveSyncInfo items ∅), failure] }

def marked : Fleet :=
  { overtaken with status := contribution.patch.apply noted, version := 3 }

def setting : DriftSetting := ⟨fleet, drift, context, orchestrator.settings.ioMillis, now⟩

/-- What drift asks and tells. -/
def mitigated : Cycle.Log :=
  replied (.collectStatus fleet) items ++ (replied (.deletePod slow) (.ok ()) ++
    Cycle.telling key [.podsDeletedForDrift 50 none 1])

def log : Cycle.Log :=
  replied (.readFleet key) (.ok (some fleet)) ++
    ([⟨.wallClock, now⟩] ++ ([] ++ [] ++ mitigated) ++
      [⟨.shuttingDown, false⟩, ⟨.clock, (0 : Nat)⟩] ++
      ⟨.clock, (0 : Nat)⟩ ::
        Orchestrator.persisted key overtaken marked contribution.patch context.deadline)

def store : Store := SortedMap.empty.insert key fleet

theorem ends_mitigated :
    (mitigateDrift orchestrator.settings.minReady setting).Ends mitigated contribution := by
  have lags : setting.lagging orchestrator.settings.minReady items (deriveSyncInfo items ∅) =
      [slow] := by decide
  -- One failure is not too many in the status that was read, so no claim is asked for.
  have remedied : (setting.remedy
      { working := fleet.status
        contribution := { patch := [.setSyncInfo (deriveSyncInfo items ∅)] } } slow).Ends
      (replied (.deletePod slow) (.ok ()))
      { working := (failure.apply fleet.status).1, deleted := 1, contribution } :=
    DriftSetting.ends_remedy (.done _)
  exact ends_mitigateDrift lags
    (Program.ends_bind_iff.2 ⟨_, [], _, (List.append_nil _).symm, remedied, .done _⟩)

theorem ends_log :
    (orchestrator.cycle key context).Ends log (.healed fleet contribution .stored) := by
  have evaluated : (orchestrator.evaluate fleet { drift := some drift } context now).Ends
      ([] ++ [] ++ mitigated) contribution :=
    Orchestrator.ends_evaluate_iff.2
      ⟨[], [], mitigated, {}, {}, _, rfl, rfl, .done _, .done _, ends_mitigated⟩
  have looked : context.isCancelled.Ends [⟨.shuttingDown, false⟩, ⟨.clock, (0 : Nat)⟩] false :=
    CycleContext.ends_isCancelled (by decide)
  have concluded : (orchestrator.conclude key context contribution).Ends
      (⟨.clock, (0 : Nat)⟩ ::
        Orchestrator.persisted key overtaken marked contribution.patch context.deadline)
      .stored := Orchestrator.ends_conclude rfl (by decide)
  exact Orchestrator.ends_cycle rfl
    (.concluded (Program.ends_put_iff.2 rfl) evaluated looked concluded)

theorem find?_overtaken : (store.updateStatus key 1 noted).2.find? key = some overtaken := by
  have stored : store.find? key = some fleet := SortedMap.find?_insert_self ..
  have wrote : store.updateStatus key 1 noted = _ :=
    Store.updateStatus_of_version_eq stored rfl noted
  rw [wrote]
  exact SortedMap.find?_insert_self ..

theorem course_log : store.Course log [⟨key, overtaken, marked⟩]
    ((store.updateStatus key 1 noted).2.insert key marked) := by
  have stored : store.find? key = some fleet := SortedMap.find?_insert_self ..
  -- the read, the wall clock, and what drift asks and tells
  refine .still ⟨rfl, rfl⟩ (.still ⟨stored.symm, rfl, rfl⟩ (.still ⟨rfl, rfl⟩ ?_))
  refine .still ⟨rfl, rfl⟩ (.still ⟨rfl, rfl⟩ (.still ⟨rfl, rfl⟩ (.still ⟨rfl, rfl⟩ ?_)))
  refine .still ⟨rfl, rfl⟩ (.still ⟨rfl, rfl⟩ (.still ⟨rfl, rfl⟩ (.still ⟨rfl, rfl⟩ ?_)))
  -- the failure that the other controller logs, before the fleet is read again
  refine .edited (.status (.refl store) key 1 noted) ⟨find?_overtaken.symm, rfl, rfl⟩ ?_
  have wrote := Store.updateStatus_of_version_eq find?_overtaken rfl marked.status
  change Store.Course _ _ ([⟨key, overtaken, marked⟩] ++ []) _
  exact .next (.refl _) ⟨overtaken, find?_overtaken, wrote, rfl⟩ (.rest (.refl _))

theorem triggers_overtaken : "osmosis-1" ∈ contribution.patch.triggers overtaken.status := by
  decide

/-- The cycle asks for no claim. -/
theorem not_claimGone (pod : Pod) : ¬Cycle.ClaimGone log pod := by
  intro gone
  obtain ⟨limit, asked⟩ := gone.reads
  simp [log, mitigated, replied, CycleContext.replied, Cycle.telling, Orchestrator.persisted]
    at asked

end Overtaken

open Laggard (key context orchestrator) in
open Overtaken in
/-- The failures are too many only as others have counted them. -/
theorem Orchestrator.regenerates_of_triggers_overtaken :
    (orchestrator.cycle key context).Ends log (.healed fleet contribution .stored) ∧
      store.Course log [⟨key, overtaken, marked⟩]
        ((store.updateStatus key 1 noted).2.insert key marked) ∧
      "osmosis-1" ∈ contribution.patch.triggers overtaken.status ∧
      "osmosis-1" ∉ contribution.patch.triggers fleet.status ∧
      fleet.status.failureLog "osmosis-1" ≠ overtaken.status.failureLog "osmosis-1" := by
  refine ⟨ends_log, course_log, triggers_overtaken, ?_⟩
  obtain ⟨-, -, before, after, hlog, -, ⟨pod, -, -, gone⟩ | differ⟩ :=
    regenerates_of_triggers ends_log course_log triggers_overtaken
  · have part : before <:+: log := hlog ▸ (List.prefix_append before after).isInfix
    exact absurd (gone.mono part) (not_claimGone pod)
  · exact differ

open Laggard (key context orchestrator) in
open Overtaken in
/-- **Marked with its claim.**  A cycle may mark a pod whose claim is not gone. -/
theorem Orchestrator.marked_with_claim :
    ¬∀ (o : Orchestrator) (key : FleetKey) (c : CycleContext) (s t : Store) (log : Cycle.Log)
        (f g h : Fleet) (contribution : Contribution) (closing : Closing)
        (regenerate : RegenerateSpec) (name : String),
      (f.spec.heal.bind (·.drift)).bind (·.regenerate) = some regenerate →
        (o.cycle key c).Ends log (.healed f contribution closing) →
        s.Course log [⟨key, g, h⟩] t → name ∈ contribution.patch.triggers g.status →
        ∃ pod : Pod, pod.name = name ∧ Cycle.ClaimGone log pod := by
  intro gone
  obtain ⟨pod, -, claim⟩ := gone orchestrator key context store _ log fleet overtaken marked
    contribution .stored _ "osmosis-1" rfl ends_log course_log triggers_overtaken
  exact not_claimGone pod claim

end FleetMend
