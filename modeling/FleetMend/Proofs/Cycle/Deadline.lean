import FleetMend.Proofs.Cycle.Ordinary

/-!
A cycle is over by its deadline and says when the next one is due.

* `Cycle.EndsBy`: a program waits no longer than to a deadline; `Surroundings.clock_run_le`: it is
  over by then.
* `Orchestrator.endsBy_reconcile`: whatever it asks for, a cycle waits no longer than to its own.
* `Cycle.Finds`: the first call of a dialogue reads the fleet and is completed.
* `Orchestrator.reconcile_punctual`: both, wherever a cycle runs.
-/

namespace FleetMend

/-! ### Programs that are over by a deadline -/

/-- No question of the program waits past the deadline. -/
abbrev Cycle.EndsBy {α : Type} (p : Cycle α) (deadline : Nat) : Prop :=
  p.Keeps (Query.Until deadline) fun _ => True

theorem Cycle.Ordinary.endsBy {α : Type} {p : Cycle α} {who : Option Evaluator} {deadline : Nat}
    (h : p.Ordinary who deadline) : p.EndsBy deadline :=
  h.mono (fun _ hq => hq.inTime) fun _ ha => ha

/-- A program that waits no longer than to a deadline is over by then, wherever it runs. -/
theorem Surroundings.clock_run_le {σ α : Type} {deadline : Nat} {p : Cycle α}
    (h : p.EndsBy deadline) (S : Surroundings σ) (s : σ) :
    S.clock (p.run S.answer s).2 ≤ max (S.clock s) deadline :=
  (S.passes p s).le_max (h.of_ends (Program.ends_run ..)).1

theorem Solo.now_runCycle_le {α : Type} {deadline : Nat} {p : Cycle α} (h : p.EndsBy deadline)
    (s : Solo) : (s.runCycle p).2.now ≤ max s.now deadline :=
  surroundings.clock_run_le h s

/-! ### Cycles -/

/-- The first call of a dialogue reads the fleet and is completed: the fleet is found, or gone. -/
def Cycle.Finds (log : Cycle.Log) (key : FleetKey) (found : Option Fleet) : Prop :=
  ∃ (now limit : Nat) (rest : Cycle.Log), log = ⟨.clock, now⟩ ::
    ⟨.await (.call (.readFleet key)) limit,
      (.ok (.ok found) : Except Abort (Except ControlError (Option Fleet)))⟩ :: rest

/-- What is found is settled by the answer to the first call. -/
theorem Cycle.finds_iff {key : FleetKey} {clock limit : Nat} {rest : Cycle.Log}
    {x : Except Abort (Except ControlError (Option Fleet))} {found : Option Fleet} :
    Finds (⟨.clock, clock⟩ :: ⟨.await (.call (.readFleet key)) limit, x⟩ :: rest) key found ↔
      x = .ok (.ok found) := by
  constructor
  · rintro ⟨now, limit', rest', same⟩
    cases same
    rfl
  · rintro rfl
    exact ⟨clock, limit, rest, rfl⟩

namespace Orchestrator

variable {o : Orchestrator} {key : FleetKey} {f : Fleet} {heal : HealSpec} {c : CycleContext}
  {now : Time}

theorem endsBy_evaluate : (o.evaluate f heal c now).EndsBy c.deadline := by
  have mitigates (spec : DriftSpec) : (mitigateDrift o.settings.minReady
      { fleet := f, spec, context := c, io := o.settings.ioMillis, now }).EndsBy c.deadline :=
    ordinary_mitigateDrift.endsBy
  have prunes (spec : PruningSpec) :
      (prune o.settings.pruningTiming f spec c now).EndsBy c.deadline :=
    asks_prune.mono (fun _ hq => hq.2) fun _ ha => ha
  exact (keeps_whenSet trivial prunes).bind fun _ _ =>
    (keeps_whenSet trivial fun _ => ordinary_autoscale.endsBy).bind fun _ _ =>
    (keeps_whenSet trivial mitigates).bind fun _ _ => trivial

theorem endsBy_healFleet : (o.healFleet key f heal c).EndsBy c.deadline := by
  refine (ordinary_wallClock c.deadline).endsBy.bind fun _ _ =>
    (endsBy_evaluate.and keeps_evaluate).bind fun contribution added =>
    CycleContext.ordinary_isCancelled.endsBy.bind fun cancelled _ => ?_
  cases cancelled with
  | true => trivial
  | false => exact (ordinary_conclude added.2).endsBy.map

theorem endsBy_reconcile : (o.reconcile key c).EndsBy c.deadline := by
  refine (ordinary_readFleet.endsBy.bind fun r _ => ?_).map
  rcases r with e | _ | f
  · trivial
  · trivial
  · dsimp only
    split
    · trivial
    · exact endsBy_healFleet

/-- What a cycle finds is what its first errand brings back. -/
theorem finds_iff_of_read {l rest : Cycle.Log} {r : Except ControlError (Option Fleet)}
    (read : (c.run "get resource" o.settings.ioMillis (Errand.call (.readFleet key))).Ends l r)
    {found : Option Fleet} : Cycle.Finds (l ++ rest) key found ↔ r = .ok found := by
  obtain ⟨w, bounded, rfl⟩ := Program.ends_map_iff.1 read
  obtain ⟨clock, x, rfl, rfl⟩ := CycleContext.ends_bound_call_iff.1 bounded
  refine Cycle.finds_iff.trans ?_
  rcases x with (_ | _) | e | found'
  · exact ⟨(by rintro ⟨⟩), by rintro ⟨⟩⟩
  · exact ⟨(by rintro ⟨⟩), by rintro ⟨⟩⟩
  · exact ⟨(by rintro ⟨⟩), by rintro ⟨⟩⟩
  · exact ⟨(by rintro ⟨⟩; rfl), by rintro ⟨⟩; rfl⟩

/-- A cycle asks for no other where its fleet was not found, or is not to be healed. -/
theorem requeueAfter_eq_none_iff {log : Cycle.Log} {outcome : Outcome}
    (h : (o.reconcile key c).Ends log outcome) :
    outcome.requeueAfter = none ↔
      ∃ found, Cycle.Finds log key found ∧ found.bind (·.spec.heal) = none := by
  obtain ⟨report, cycled, rfl⟩ := Program.ends_map_iff.1 h
  obtain ⟨l₁, l₂, r, rfl, read, after⟩ := Program.ends_bind_iff.1 cycled
  refine Iff.trans ?_ (exists_congr fun found => and_congr_left fun _ =>
    (finds_iff_of_read read).symm)
  rcases r with e | _ | f
  · obtain ⟨-, rfl⟩ := Program.ends_done_iff.1 after
    exact ⟨(by rintro ⟨⟩), by rintro ⟨_, ⟨⟩, _⟩⟩
  · obtain ⟨-, rfl⟩ := Program.ends_done_iff.1 after
    exact ⟨fun _ => ⟨none, rfl, rfl⟩, fun _ => rfl⟩
  · dsimp only at after
    cases asked : f.spec.heal with
    | none =>
      rw [asked] at after
      obtain ⟨-, rfl⟩ := Program.ends_done_iff.1 after
      exact ⟨fun _ => ⟨some f, rfl, asked⟩, fun _ => rfl⟩
    | some heal =>
      rw [asked] at after
      obtain ⟨contribution, closing, rfl, -⟩ := heals_of_ends after
      refine ⟨(by rintro ⟨⟩), ?_⟩
      rintro ⟨_, ⟨⟩, unasked⟩
      rw [Option.bind_some, asked] at unasked
      cases unasked

theorem requeueAfter_le {report : Report} {millis : Nat}
    (h : (o.outcome report).requeueAfter = some millis) : millis ≤ o.settings.requeueMillis := by
  cases report with
  | unread e =>
    obtain rfl := Option.some.inj h
    exact Nat.le_refl _
  | idle => cases h
  | healed f contribution closing =>
    obtain rfl := Option.some.inj h
    unfold requeue
    split
    · exact Nat.le_refl _
    · exact Nat.min_le_left ..

/-- **Punctuality.**  Wherever a cycle runs, however long its calls take, even for ever, and
whenever a shutdown begins: it comes to an end no later than its deadline, or at once where that has
passed when it begins.  It asks for another cycle, after the configured time at the latest, unless
its first call was completed and has found no fleet or one that is not to be healed. -/
theorem reconcile_punctual {σ : Type} (S : Surroundings σ) (o : Orchestrator) (key : FleetKey)
    (c : CycleContext) (s : σ) :
    let log := (o.reconcile key c).transcript S.answer s
    let outcome := ((o.reconcile key c).run S.answer s).1
    let s' := ((o.reconcile key c).run S.answer s).2
    S.clock s' ≤ max (S.clock s) c.deadline ∧
      (outcome.requeueAfter = none ↔
        ∃ found, Cycle.Finds log key found ∧ found.bind (·.spec.heal) = none) ∧
      ∀ millis, outcome.requeueAfter = some millis → millis ≤ o.settings.requeueMillis := by
  intro log outcome s'
  have ends : (o.reconcile key c).Ends log outcome := Program.ends_run ..
  refine ⟨S.clock_run_le endsBy_reconcile s, requeueAfter_eq_none_iff ends, fun millis due => ?_⟩
  obtain ⟨report, -, summed⟩ := Program.ends_map_iff.1 ends
  rw [summed] at due
  exact requeueAfter_le due

end Orchestrator

end FleetMend
