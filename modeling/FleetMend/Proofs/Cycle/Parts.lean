import FleetMend.Proofs.Cycle.Preliminary
import FleetMend.Proofs.Persist.Attempt

/-!
The parts of a cycle, each with its share of the dialogue.

* `Orchestrator.ends_evaluate_iff`: the evaluators, one after the other.
* `Orchestrator.Heals`: a cycle that looks at the wall clock, asks the evaluators, sees whether it
  is cancelled, and else concludes.
* `Orchestrator.Reports`: a cycle that reads its fleet, and heals it where that is asked for.
* `Orchestrator.heals_of_ends_cycle`, `Orchestrator.preliminary_of_ends`: what a cycle that heals
  has done before it stores anything.
* `Orchestrator.ends_cycle`, `Orchestrator.ends_conclude`, `ends_prune`, `ends_autoscale`,
  `ends_mitigateDrift`: a dialogue put together again from its parts.
-/

namespace FleetMend

namespace Orchestrator

/-- The dialogue of a cycle of a fleet that is to be healed, part by part. -/
inductive Heals (o : Orchestrator) (key : FleetKey) (f : Fleet) (heal : HealSpec)
    (c : CycleContext) : Cycle.Log → Contribution → Closing → Prop where
  | cancelled {l₁ l₂ l₃ : Cycle.Log} {now : Time} {contribution : Contribution}
    (timed : Cycle.wallClock.Ends l₁ now)
    (evaluated : (o.evaluate f heal c now).Ends l₂ contribution)
    (looked : c.isCancelled.Ends l₃ true) :
    Heals o key f heal c (l₁ ++ l₂ ++ l₃) contribution .cancelled
  | concluded {l₁ l₂ l₃ l₄ : Cycle.Log} {now : Time} {contribution : Contribution}
    {closing : Closing} (timed : Cycle.wallClock.Ends l₁ now)
    (evaluated : (o.evaluate f heal c now).Ends l₂ contribution)
    (looked : c.isCancelled.Ends l₃ false)
    (concluded : (o.conclude key c contribution).Ends l₄ closing) :
    Heals o key f heal c (l₁ ++ l₂ ++ l₃ ++ l₄) contribution closing

/-- The dialogue of a cycle, part by part. -/
inductive Reports (o : Orchestrator) (key : FleetKey) (c : CycleContext) :
    Cycle.Log → Report → Prop where
  /-- There is nothing to heal. -/
  | still {log : Cycle.Log} {r : Except ControlError (Option Fleet)} {report : Report}
    (read : (c.run "get resource" o.settings.ioMillis (Errand.call (.readFleet key))).Ends log r)
    (still : report = .idle ∨ ∃ e, report = .unread e) : Reports o key c log report
  | healed {l₁ l₂ : Cycle.Log} {f : Fleet} {heal : HealSpec} {contribution : Contribution}
    {closing : Closing}
    (read : (c.run "get resource" o.settings.ioMillis (Errand.call (.readFleet key))).Ends l₁
      (.ok (some f)))
    (asked : f.spec.heal = some heal) (heals : Heals o key f heal c l₂ contribution closing) :
    Reports o key c (l₁ ++ l₂) (.healed f contribution closing)

variable {o : Orchestrator} {key : FleetKey} {f : Fleet} {heal : HealSpec} {c : CycleContext}
  {now : Time} {log : Cycle.Log}

/-! ### What the parts ask -/

theorem keeps_readFleet :
    (c.run "get resource" o.settings.ioMillis (Errand.call (.readFleet key))).Keeps Query.Sparing
      fun _ => True :=
  CycleContext.keeps_run ⟨⟨rfl, rfl⟩, rfl⟩
    (Errand.spares_call (c := .readFleet key) rfl rfl).await

theorem keeps_wallClock : Cycle.wallClock.Keeps Query.Sparing fun _ => True :=
  Program.Keeps.put ⟨⟨rfl, rfl⟩, rfl⟩

theorem keeps_isCancelled : c.isCancelled.Keeps Query.Sparing fun _ => True :=
  (Program.Keeps.put ⟨⟨rfl, rfl⟩, rfl⟩).bind fun _ _ =>
    (Program.Keeps.put ⟨⟨rfl, rfl⟩, rfl⟩).map

/-- Storing changes tells of none of them, and deletes no pod. -/
theorem keeps_storeChanges {patch : Patch} :
    (o.storeChanges key c patch).Keeps (fun q => q.tells = false ∧ q.deletes? = none)
      fun _ => True := by
  unfold storeChanges
  split
  · trivial
  · have asks : ∀ limit, (persist o.retry key patch).Keeps
        (fun r => (Query.await r limit).tells = false ∧ (Query.await r limit).deletes? = none)
        fun _ => True :=
      fun _ => keeps_persistLeft ⟨rfl, rfl⟩ (fun _ _ => ⟨rfl, rfl⟩) (fun _ _ => ⟨rfl, rfl⟩) _
    have bounded : (c.withinDeadline "persist status" (persist o.retry key patch)).Keeps
        (fun q => q.tells = false ∧ q.deletes? = none) fun r => ∀ a, r = .ok a → True :=
      CycleContext.keeps_withinDeadline ⟨rfl, rfl⟩ asks fun _ _ _ => trivial
    exact (bounded.mono (fun _ h => h) fun _ _ => trivial).map

theorem keeps_conclude {contribution : Contribution} :
    (o.conclude key c contribution).Keeps (fun q => q.deletes? = none) fun _ => True := by
  refine (keeps_storeChanges.mono (fun _ h => h.2) fun _ h => h).bind fun r _ => ?_
  cases r with
  | error e => exact ⟨rfl, fun _ => trivial⟩
  | ok u => exact (Cycle.keeps_announceAll fun _ _ => rfl).bind fun _ _ => trivial

/-! ### The parts of a dialogue -/

/-- The evaluators run one after the other, and each adds its own. -/
theorem ends_evaluate_iff {contribution : Contribution} :
    (o.evaluate f heal c now).Ends log contribution ↔
      ∃ l₁ l₂ l₃ pruned scaled mitigated, log = l₁ ++ l₂ ++ l₃ ∧
        contribution = pruned ++ scaled ++ mitigated ∧
        (whenSet heal.pruning fun spec => prune o.settings.pruningTiming f spec c now).Ends
          l₁ pruned ∧
        (whenSet heal.autoscale fun spec => autoscale o.settings.ioMillis f spec c now).Ends
          l₂ scaled ∧
        (whenSet heal.drift fun spec => mitigateDrift o.settings.minReady
          { fleet := f, spec, context := c, io := o.settings.ioMillis, now }).Ends
          l₃ mitigated := by
  constructor
  · intro h
    obtain ⟨l₁, _, pruned, rfl, hpruned, h⟩ := Program.ends_bind_iff.1 h
    obtain ⟨l₂, _, scaled, rfl, hscaled, h⟩ := Program.ends_bind_iff.1 h
    obtain ⟨l₃, _, mitigated, rfl, hmitigated, h⟩ := Program.ends_bind_iff.1 h
    obtain ⟨rfl, rfl⟩ := Program.ends_done_iff.1 h
    exact ⟨l₁, l₂, l₃, pruned, scaled, mitigated, by simp, rfl, hpruned, hscaled, hmitigated⟩
  · rintro ⟨l₁, l₂, l₃, pruned, scaled, mitigated, rfl, rfl, hpruned, hscaled, hmitigated⟩
    rw [← List.append_nil (l₁ ++ l₂ ++ l₃), List.append_assoc, List.append_assoc]
    exact hpruned.bind (hscaled.bind (hmitigated.bind (.done _)))

theorem heals_of_ends {report : Report} (h : (o.healFleet key f heal c).Ends log report) :
    ∃ contribution closing, report = .healed f contribution closing ∧
      o.Heals key f heal c log contribution closing := by
  obtain ⟨l₁, _, now, rfl, timed, h⟩ := Program.ends_bind_iff.1 h
  obtain ⟨l₂, _, contribution, rfl, evaluated, h⟩ := Program.ends_bind_iff.1 h
  obtain ⟨l₃, l₄, cancelled, rfl, looked, h⟩ := Program.ends_bind_iff.1 h
  rw [← List.append_assoc, ← List.append_assoc]
  cases cancelled with
  | true =>
    obtain ⟨rfl, rfl⟩ := Program.ends_done_iff.1 h
    rw [List.append_nil]
    exact ⟨contribution, .cancelled, rfl, .cancelled timed evaluated looked⟩
  | false =>
    obtain ⟨closing, concluded, rfl⟩ := Program.ends_map_iff.1 h
    exact ⟨contribution, closing, rfl, .concluded timed evaluated looked concluded⟩

theorem reports_of_ends {report : Report} (h : (o.cycle key c).Ends log report) :
    o.Reports key c log report := by
  obtain ⟨l₁, l₂, r, rfl, read, h⟩ := Program.ends_bind_iff.1 h
  rcases r with e | _ | f
  · obtain ⟨rfl, rfl⟩ := Program.ends_done_iff.1 h
    rw [List.append_nil]
    exact .still read (.inr ⟨e, rfl⟩)
  · obtain ⟨rfl, rfl⟩ := Program.ends_done_iff.1 h
    rw [List.append_nil]
    exact .still read (.inl rfl)
  · dsimp only at h
    cases asked : f.spec.heal with
    | none =>
      rw [asked] at h
      obtain ⟨rfl, rfl⟩ := Program.ends_done_iff.1 h
      rw [List.append_nil]
      exact .still read (.inl rfl)
    | some heal =>
      rw [asked] at h
      obtain ⟨contribution, closing, rfl, heals⟩ := heals_of_ends h
      exact .healed read asked heals

/-- A cycle that heals has read its fleet, and the rest of its dialogue is that of healing it. -/
theorem heals_of_ends_cycle {contribution : Contribution} {closing : Closing}
    (h : (o.cycle key c).Ends log (.healed f contribution closing)) :
    ∃ l₁ l₂ heal, log = l₁ ++ l₂ ∧
      (c.run "get resource" o.settings.ioMillis (Errand.call (.readFleet key))).Ends l₁
        (.ok (some f)) ∧
      f.spec.heal = some heal ∧ o.Heals key f heal c l₂ contribution closing := by
  cases reports_of_ends h with
  | still read still => rcases still with h | ⟨e, h⟩ <;> cases h
  | healed read asked heals => exact ⟨_, _, _, rfl, read, asked, heals⟩

/-- Up to the look whether it is cancelled, a cycle that heals asks preliminary questions only. -/
theorem preliminary_of_ends {l₁ l₂ l₃ : Cycle.Log} {contribution : Contribution}
    {cancelled : Bool} (timed : Cycle.wallClock.Ends l₁ now)
    (evaluated : (o.evaluate f heal c now).Ends l₂ contribution)
    (looked : c.isCancelled.Ends l₃ cancelled) : ∀ e ∈ l₁ ++ l₂ ++ l₃, e.1.Preliminary :=
  List.forall_mem_append.2 ⟨List.forall_mem_append.2
    ⟨fun e he => ((keeps_wallClock.of_ends timed).1 e he).1,
      (keeps_evaluate.of_ends evaluated).1⟩,
    fun e he => ((keeps_isCancelled.of_ends looked).1 e he).1⟩

/-- A cycle that heals asks its evaluators once, and deletes no pods besides. -/
theorem exists_evaluate_of_ends {contribution : Contribution} {closing : Closing}
    (h : (o.cycle key c).Ends log (.healed f contribution closing)) :
    ∃ heal now l, f.spec.heal = some heal ∧ ⟨.wallClock, now⟩ ∈ log ∧
      (o.evaluate f heal c now).Ends l contribution ∧ Cycle.deleted log = Cycle.deleted l ∧
      ∀ e ∈ l, e ∈ log := by
  have spared {α : Type} {p : Cycle α} {l : Cycle.Log} {a : α}
      (hp : p.Keeps Query.Sparing fun _ => True) (h : p.Ends l a) : Cycle.deleted l = [] :=
    Cycle.deleted_eq_nil fun e he => ((hp.of_ends h).1 e he).2
  obtain ⟨l₁, rest, heal, rfl, read, asked, heals⟩ := heals_of_ends_cycle h
  cases heals with
  | @cancelled l₂ l l₃ now _ timed evaluated looked =>
    have looks : ⟨.wallClock, now⟩ ∈ l₂ := by simp [Program.ends_put_iff.1 timed]
    refine ⟨heal, now, l, asked, by simp [looks], evaluated, ?_, fun e he => by simp [he]⟩
    simp [Cycle.deleted_append, spared keeps_readFleet read, spared keeps_wallClock timed,
      spared keeps_isCancelled looked]
  | @concluded l₂ l l₃ l₄ now _ _ timed evaluated looked concluded =>
    have kept : Cycle.deleted l₄ = [] :=
      Cycle.deleted_eq_nil (keeps_conclude.of_ends concluded).1
    have looks : ⟨.wallClock, now⟩ ∈ l₂ := by simp [Program.ends_put_iff.1 timed]
    refine ⟨heal, now, l, asked, by simp [looks], evaluated, ?_, fun e he => by simp [he]⟩
    simp [Cycle.deleted_append, spared keeps_readFleet read, spared keeps_wallClock timed,
      spared keeps_isCancelled looked, kept]

/-! ### Parts put together -/

/-- A fleet is read, and written with a patch. -/
def persisted (key : FleetKey) (f g : Fleet) (patch : Patch) (limit : Nat) : Cycle.Log :=
  [⟨.await (.call (.readFleet key)) limit,
    (.ok (.ok (some f)) : Except Abort (Except ControlError (Option Fleet)))⟩,
  ⟨.await (.call (.writeStatus key f.version (patch.apply f.status))) limit,
    (.ok (.ok g) : Except Abort (Except ControlError Fleet))⟩]

/-- A fleet is read, and the write of a patch is refused. -/
def refused (key : FleetKey) (f : Fleet) (e : ControlError) (patch : Patch) (limit : Nat) :
    Cycle.Log :=
  [⟨.await (.call (.readFleet key)) limit,
    (.ok (.ok (some f)) : Except Abort (Except ControlError (Option Fleet)))⟩,
  ⟨.await (.call (.writeStatus key f.version (patch.apply f.status))) limit,
    (.ok (.error e) : Except Abort (Except ControlError Fleet))⟩]

/-- A patch that changes something is settled by the reply to its write, where there is no other
attempt after it. -/
theorem ends_persist_of_write {policy : RetryPolicy} {patch : Patch} {limit : Nat}
    {reply : Except ControlError Fleet} {r : Except ControlError Unit}
    (changes : ¬(patch.apply f.status == f.status) = true)
    (settled : ∀ again, afterWrite again reply = .done r) :
    (Cycle.within limit (persist policy key patch)).Ends
      [⟨.await (.call (.readFleet key)) limit,
        (.ok (.ok (some f)) : Except Abort (Except ControlError (Option Fleet)))⟩,
      ⟨.await (.call (.writeStatus key f.version (patch.apply f.status))) limit,
        (.ok reply : Except Abort (Except ControlError Fleet))⟩] (.ok r) := by
  obtain ⟨left, attempts⟩ : ∃ left, policy.limit = left + 1 :=
    Nat.exists_eq_add_of_le' (Nat.le_max_left 1 _)
  rw [persist, attempts, persistLeft_succ]
  refine Cycle.ends_within_ask_iff.2 ⟨.ok (.ok (some f)), _, rfl, ?_⟩
  change (Cycle.within limit (if patch.apply f.status == f.status then .done (.ok ()) else .ask
    (Request.call (.writeStatus key f.version (patch.apply f.status))) (afterWrite _))).Ends _ _
  rw [if_neg changes]
  refine Cycle.ends_within_ask_iff.2 ⟨.ok reply, [], rfl, ?_⟩
  dsimp only
  rw [settled]
  exact .done _

/-- Where no one else gets in between, a patch that changes something is stored at once. -/
theorem ends_persist {policy : RetryPolicy} {patch : Patch} {limit : Nat} {g : Fleet}
    (changes : ¬(patch.apply f.status == f.status) = true) :
    (Cycle.within limit (persist policy key patch)).Ends (persisted key f g patch limit)
      (.ok (.ok ())) :=
  ends_persist_of_write changes fun _ => rfl

/-- A write that is refused, and not for a conflict, is not tried again. -/
theorem ends_persist_refused {policy : RetryPolicy} {patch : Patch} {limit : Nat}
    {e : ControlError} (changes : ¬(patch.apply f.status == f.status) = true)
    (lost : e.isConflict = false) :
    (Cycle.within limit (persist policy key patch)).Ends (refused key f e patch limit)
      (.ok (.error e)) :=
  ends_persist_of_write changes fun _ => by rw [afterWrite, lost]; rfl

/-- A patch that is stored at once has its actions told. -/
theorem ends_conclude {contribution : Contribution} {clock : Nat} {g : Fleet}
    (some : contribution.patch.isEmpty = false)
    (changes : ¬(contribution.patch.apply f.status == f.status) = true) :
    (o.conclude key c contribution).Ends
      (⟨.clock, clock⟩ :: persisted key f g contribution.patch c.deadline ++
        Cycle.telling key contribution.actions) .stored := by
  have stores : (o.storeChanges key c contribution.patch).Ends
      (⟨.clock, clock⟩ :: persisted key f g contribution.patch c.deadline) (.ok ()) := by
    rw [storeChanges, some]
    exact Program.ends_map_iff.2 ⟨_, CycleContext.ends_withinDeadline_iff.2
      ⟨clock, .ok (.ok ()), _, rfl, ends_persist changes, rfl⟩, rfl⟩
  have told : (Cycle.announceAll key contribution.actions).Ends _ () :=
    Cycle.ends_announceAll_iff.2 rfl
  rw [← List.append_nil (Cycle.telling ..)]
  exact stores.bind (told.bind (.done _))

/-- Where the write of a patch is refused, none of its actions are told. -/
theorem ends_conclude_refused {contribution : Contribution} {clock : Nat} {e : ControlError}
    (some : contribution.patch.isEmpty = false)
    (changes : ¬(contribution.patch.apply f.status == f.status) = true)
    (lost : e.isConflict = false) :
    (o.conclude key c contribution).Ends
      (⟨.clock, clock⟩ :: refused key f e contribution.patch c.deadline ++
        Cycle.telling key [.statusPersistFailed e.message]) (.failed e) := by
  have fails : (o.storeChanges key c contribution.patch).Ends
      (⟨.clock, clock⟩ :: refused key f e contribution.patch c.deadline) (.error e) := by
    rw [storeChanges, some]
    exact Program.ends_map_iff.2 ⟨_, CycleContext.ends_withinDeadline_iff.2
      ⟨clock, .ok (.error e), _, rfl, ends_persist_refused changes lost, rfl⟩, rfl⟩
  have told : (Cycle.announce key (.statusPersistFailed e.message)).Ends _ () :=
    Program.ends_put_iff.2 rfl
  exact fails.bind (told.bind (.done _))

theorem Heals.ends {contribution : Contribution} {closing : Closing}
    (h : o.Heals key f heal c log contribution closing) :
    (o.healFleet key f heal c).Ends log (.healed f contribution closing) := by
  cases h with
  | cancelled timed evaluated looked =>
    rw [← List.append_nil (_ ++ _ ++ _), List.append_assoc, List.append_assoc]
    exact timed.bind (evaluated.bind (looked.bind (.done _)))
  | concluded timed evaluated looked concluded =>
    rw [List.append_assoc, List.append_assoc]
    exact timed.bind (evaluated.bind (looked.bind (Program.ends_map_iff.2 ⟨_, concluded, rfl⟩)))

/-- A cycle whose fleet is read, and is to be healed. -/
theorem ends_cycle {contribution : Contribution} {closing : Closing} {clock : Nat}
    (asked : f.spec.heal = some heal) (heals : o.Heals key f heal c log contribution closing) :
    (o.cycle key c).Ends
      (c.replied o.settings.ioMillis clock (.readFleet key) (.ok (some f)) ++ log)
      (.healed f contribution closing) := by
  have read : (c.run "get resource" o.settings.ioMillis (Errand.call (.readFleet key))).Ends
      (c.replied o.settings.ioMillis clock (.readFleet key) (.ok (some f))) (.ok (some f)) :=
    Program.ends_map_iff.2 ⟨_, CycleContext.ends_bound_call, rfl⟩
  refine read.bind ?_
  dsimp only
  rw [asked]
  exact heals.ends

end Orchestrator

/-! ### Evaluators put together -/

/-- A step of pruning that gets its replies in time. -/
theorem ends_prune {timing : PruningTiming} {f : Fleet} {spec : PruningSpec} {c : CycleContext}
    {now : Time} {clock : Nat} (x : Sight) :
    (prune timing f spec c now).Ends
      (⟨.clock, clock⟩ :: (x.asked timing f).map (Cycle.awaited c.deadline) ++
        Cycle.telling f.key (x.outcome timing f spec now).events)
      (x.outcome timing f spec now).contribution := by
  have step : (pruneStep timing f spec now).Ends (x.asked timing f) (x.outcome timing f spec now) :=
    ends_pruneStep_iff.2 ⟨x, rfl, rfl⟩
  have bounded : (c.withinDeadline "pruning step" (pruneStep timing f spec now)).Ends
      (⟨.clock, clock⟩ :: (x.asked timing f).map (Cycle.awaited c.deadline))
      (.ok (x.outcome timing f spec now)) :=
    CycleContext.ends_withinDeadline_iff.2
      ⟨clock, .ok _, _, rfl, Cycle.ends_within_ok_iff.2 ⟨_, step, rfl⟩, rfl⟩
  have told : (Cycle.announceAll f.key (x.outcome timing f spec now).events).Ends _ () :=
    Cycle.ends_announceAll_iff.2 rfl
  rw [← List.append_nil (Cycle.telling ..)]
  exact bounded.bind (told.bind (.done _))

/-- The disk usage is read in time, and tells which volumes are to grow. -/
theorem ends_autoscale {io clock : Nat} {f : Fleet} {spec : AutoscaleSpec} {c : CycleContext}
    {now : Time} {samples : List DiskUsage} :
    (autoscale io f spec c now).Ends
      (c.replied io clock (.collectUsage f) (.ok samples) ++ Cycle.telling f.key
        (planResizes samples spec f.status.healing.resizes now).events)
      (planResizes samples spec f.status.healing.resizes now).contribution := by
  have read : (c.run "collect disk usage" io (readUsage f)).Ends
      (c.replied io clock (.collectUsage f) (.ok samples)) (.ok samples) :=
    CycleContext.ends_run_ok_iff.2 ⟨clock, _, rfl, Cycle.ends_within_ok_iff.2
      ⟨[⟨.call (.collectUsage f), _⟩], Program.ends_map_put_iff.2 ⟨.ok samples, rfl, rfl⟩, rfl⟩⟩
  have told : (Cycle.announceAll f.key
      (planResizes samples spec f.status.healing.resizes now).events).Ends _ () :=
    Cycle.ends_announceAll_iff.2 rfl
  rw [← List.append_nil (Cycle.telling ..)]
  exact read.bind (told.bind (.done _))

section Drift

variable {s : DriftSetting} {clock : Nat} {log : Cycle.Log} {r r' : Remediation}

/-- A pod is deleted, and what follows is done. -/
theorem DriftSetting.ends_remedy {pod : Pod} (after : (s.afterDelete r pod (.ok ())).Ends log r') :
    (s.remedy r pod).Ends (s.context.replied s.io clock (.deletePod pod) (.ok ()) ++ log) r' :=
  (Program.ends_map_iff.2 ⟨_, CycleContext.ends_bound_call, rfl⟩).bind after

/-- The pods that lag in the snapshot are remedied one after the other. -/
theorem ends_mitigateDrift {minReady : Span} {items : List StatusItem} {pods : List Pod}
    (lags : s.lagging minReady items (deriveSyncInfo items s.fleet.status.syncInfo) = pods)
    (remedied : (pods.foldlM s.remedy
      { working := s.fleet.status
        contribution := { patch :=
          [.setSyncInfo (deriveSyncInfo items s.fleet.status.syncInfo)] } }).Ends log r) :
    (mitigateDrift minReady s).Ends
      (s.context.replied s.io clock (.collectStatus s.fleet) items ++
        (log ++ Cycle.telling s.fleet.key (s.summary r.deleted))) r.contribution := by
  subst lags
  have told : (Cycle.announceAll s.fleet.key (s.summary r.deleted)).Ends _ () :=
    Cycle.ends_announceAll_iff.2 rfl
  rw [← List.append_nil (Cycle.telling ..)]
  exact CycleContext.ends_bound_call.bind (remedied.bind (told.bind (.done _)))

end Drift

end FleetMend
