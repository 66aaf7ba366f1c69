import FleetMend.Proofs.Scheduler.Order

/-!
The workers of a scheduler, in whatever order its tasks run.

* `Ensemble.Engaged`: a task is the worker of a fleet, or has been and has ended.
  `Ensemble.Step.succeeds`: every step before a shutdown keeps this so.  `Ensemble.Steps.engaged`: so
  does every run.
* `Ensemble.StartsWorker`: a step brings a task that begins as a worker of a fleet.
  `Ensemble.Step.registers`: every such task is the worker of its fleet.
-/

namespace FleetMend

theorem Workers.start?_eq_some {w w' : Workers} {key : FleetKey} {worker : Nat}
    (h : w.start? key worker = some w') :
    (∀ i, w.current.find? key = some i → i ∈ w.finished) ∧
      w' = { w with current := w.current.insert key worker } := by
  unfold Workers.start? at h
  split at h
  · cases h
  · next idle =>
    refine ⟨fun i hi => ?_, (Option.some.inj h).symm⟩
    simpa [Workers.atWork?, Workers.isFinished, hi] using idle

/-! ### How workers begin

A worker subscribes to the signal first, and then asks for the lock of its fleet; calls and the
discovery begin with other questions. -/

namespace Orchestrator

variable {o : Orchestrator} {key key' : FleetKey}

theorem work_injective (h : o.work key = o.work key') : key = key' := by
  obtain ⟨-, listens⟩ := Program.ask.inj h
  obtain ⟨-, goes⟩ := Program.ask.inj (congrFun (eq_of_heq listens) (0 : Nat))
  obtain ⟨locks, -⟩ := Program.ask.inj (congrFun (eq_of_heq goes) false)
  exact SchedulerQuery.lock.inj locks

theorem call_ne_work : o.call key ≠ o.work key' := fun h =>
  SchedulerQuery.noConfusion (Program.ask.inj h).1

end Orchestrator

theorem discover_ne_work {o : Orchestrator} {key : FleetKey} {interval : Nat} :
    discover interval ≠ o.work key := fun h =>
  SchedulerQuery.noConfusion (Program.ask.inj h).1

namespace Ensemble

variable {o : Orchestrator} {e e₁ e' : Ensemble} {st : Nat → Standing} {key : FleetKey} {i j : Nat}

/-! ### Workers -/

/-- The workers are tasks that there have been, and the finished ones are tasks no more. -/
structure Staffed (e : Ensemble) : Prop where
  finished : ∀ i ∈ e.workers.finished, i < e.nextActor ∧ e.actors.find? i = none
  current : ∀ key i, e.workers.current.find? key = some i → i < e.nextActor

/-- The task is the worker of the fleet, or has ended. -/
def Engaged (e : Ensemble) (key : FleetKey) (i : Nat) : Prop :=
  e.workers.current.find? key = some i ∨ i < e.nextActor ∧ e.actors.find? i = none

theorem Engaged.current (h : e.Engaged key i) {a : Actor} (found : e.actors.find? i = some a) :
    e.workers.current.find? key = some i := by
  rcases h with current | ⟨-, gone⟩
  · exact current
  · rw [found] at gone
    cases gone

/-- Who is the worker of a fleet stays it until its end. -/
structure Succeeds (e e' : Ensemble) : Prop where
  staffed : e'.Staffed
  engaged : ∀ key i, e.Engaged key i → e'.Engaged key i

namespace Succeeds

/-- No worker comes or goes, and no task that has ended comes back. -/
theorem of_workers_eq (h : e.Staffed) (workers : e'.workers = e.workers)
    (le : e.nextActor ≤ e'.nextActor)
    (gone : ∀ i < e.nextActor, e.actors.find? i = none → e'.actors.find? i = none) :
    Succeeds e e' where
  staffed := by
    refine ⟨fun i hi => ?_, fun key i hi => ?_⟩
    · rw [workers] at hi
      obtain ⟨lt, none⟩ := h.finished i hi
      exact ⟨Nat.lt_of_lt_of_le lt le, gone i lt none⟩
    · rw [workers] at hi
      exact Nat.lt_of_lt_of_le (h.current key i hi) le
  engaged key i hi := by
    rcases hi with hi | ⟨lt, none⟩
    · exact .inl (workers ▸ hi)
    · exact .inr ⟨Nat.lt_of_lt_of_le lt le, gone i lt none⟩

theorem trans (h : Succeeds e e₁) (h' : Succeeds e₁ e') : Succeeds e e' :=
  ⟨h'.staffed, fun key i hi => h'.engaged key i (h.engaged key i hi)⟩

theorem of_extends (h : e.Staffed) (ext : Extends none e e') (workers : e'.workers = e.workers) :
    Succeeds e e' := by
  refine of_workers_eq h workers ext.nextActor_le fun i lt none => ?_
  rw [ext.find? i lt nofun, none]

theorem refl (h : e.Staffed) : Succeeds e e := of_workers_eq h rfl (Nat.le_refl _) fun _ _ => id

theorem wakeAll (h : e.Staffed) (ids : List Nat) : Succeeds e (e.wakeAll ids) := by
  refine of_extends h (e.extends_wakeAll ids) ?_
  obtain ⟨ready, woken, eq⟩ := e.wakeAll_eq ids
  rw [eq]

theorem add (h : e.Staffed) (r : Routine Stage) : Succeeds e (e.add r).2 :=
  of_extends h (e.extends_add r) rfl

theorem spawn (h : e.Staffed) (r : Routine Stage) : Succeeds e (e.spawn r).2 :=
  (add h r).trans (wakeAll (add h r).staffed [e.nextActor])

/-- A task becomes the worker of a fleet whose last worker has ended. -/
theorem appoint (h : e.Staffed) {worker : Nat} (lt : worker < e.nextActor)
    (idle : ∀ i, e.workers.current.find? key = some i → i ∈ e.workers.finished) :
    Succeeds e
      { e with workers := { e.workers with current := e.workers.current.insert key worker } } where
  staffed := by
    refine ⟨h.finished, fun k i hi => ?_⟩
    rw [SortedMap.find?_insert] at hi
    split at hi
    · exact Option.some.inj hi ▸ lt
    · exact h.current k i hi
  engaged k i hi := by
    rcases hi with hi | hi
    · by_cases hk : k = key
      · exact .inr (h.finished i (idle i (hk ▸ hi)))
      · exact .inl (by rw [SortedMap.find?_insert, if_neg hk, hi])
    · exact .inr hi

theorem startWorker (h : e.Staffed) (key : FleetKey) : Succeeds e (e.startWorker key) := by
  unfold Ensemble.startWorker
  split
  · exact refl h
  · next workers started =>
    obtain ⟨idle, rfl⟩ := Workers.start?_eq_some started
    have added := add h (e.orchestrator.work key)
    have appointed := added.trans (appoint added.staffed (Nat.lt_succ_self _) idle)
    exact appointed.trans (wakeAll appointed.staffed [e.nextActor])

theorem startWorkers (h : e.Staffed) (keys : List FleetKey) :
    Succeeds e (keys.foldl Ensemble.startWorker e) := by
  induction keys generalizing e with
  | nil => exact refl h
  | cons key keys ih => exact (startWorker h key).trans (ih (startWorker h key).staffed)

/-- Only the end of the discovery takes the workers off the list. -/
theorem attempt (h : e.Staffed) (w : Option Waiting) {q : SchedulerQuery}
    (stays : q ≠ .joinWorkers) : Succeeds e (e.attempt i w q).ensemble := by
  obtain ⟨keys, rfl, eq⟩ | ⟨world, gate, workers, ready, woken, kept, eq⟩ :=
    e.ensemble_attempt i w q
  · exact startWorkers h keys
  · rw [eq]
    exact of_workers_eq h (kept.resolve_left stays) (Nat.le_refl _) fun _ _ => id

/-- A task goes on. -/
theorem move (h : e.Staffed) {a : Actor} (found : e.actors.find? i = some a) (b : Actor) :
    Succeeds e { e with actors := e.actors.insert i b } := by
  refine of_workers_eq h rfl (Nat.le_refl _) fun j _ none => ?_
  rw [SortedMap.find?_insert, if_neg, none]
  rintro rfl
  rw [found] at none
  cases none

/-- A task ends. -/
theorem finish (h : e.Staffed) (lt : i < e.nextActor) :
    Succeeds e { e with actors := e.actors.erase i, workers := e.workers.finish i } := by
  have gone {j : Nat} (hj : e.actors.find? j = none) : (e.actors.erase i).find? j = none := by
    rw [SortedMap.find?_erase, hj]
    split <;> rfl
  refine ⟨⟨fun j hj => ?_, h.current⟩, fun key j hj => ?_⟩
  · rcases List.mem_cons.1 hj with rfl | hj
    · exact ⟨lt, by rw [SortedMap.find?_erase, if_pos rfl]⟩
    · exact (h.finished j hj).imp id gone
  · rcases hj with hj | ⟨lt, none⟩
    · exact .inl hj
    · exact .inr ⟨lt, gone none⟩

end Succeeds

/-- Only a task that has been told of a shutdown takes the workers off the list. -/
theorem InOrder.told_of_joins (h : InOrder o e st) {next : Unit → Routine Stage}
    {w : Option (Nat × Waiting)}
    (found : e.actors.find? i = some ⟨.ask SchedulerQuery.joinWorkers next, w⟩) :
    e.signal.value := by
  obtain ⟨m, ⟨allows, -⟩, told, -⟩ := h.stands i _ found
  exact told allows.2

theorem Turn.succeeds (h : InOrder o e st) (t : Turn i e e') (quiet : e.signal.value = false)
    (staffed : e.Staffed) : Succeeds e e' := by
  have stays {q : SchedulerQuery} {next : q.Answer → Routine Stage} {w : Option (Nat × Waiting)}
      (found : e.actors.find? i = some ⟨.ask q next, w⟩) : q ≠ .joinWorkers := by
    rintro rfl
    rw [h.told_of_joins found] at quiet
    cases quiet
  cases t with
  | @settle stage w found =>
    cases hs : stage.next? e.orchestrator with
    | some r =>
      rw [settleStage_of_some e i hs]
      exact .move staffed found _
    | none =>
      obtain ⟨ready, woken, outcomes, eq⟩ := e.settleStage_of_none i hs
      rw [eq]
      have finished := Succeeds.finish staffed (h.lt found)
      exact finished.trans (.of_workers_eq finished.staffed rfl (Nat.le_refl _) fun _ _ => id)
  | @answer e₁ q next w a found attempt =>
    have first := Succeeds.attempt (i := i) staffed (w.map (·.2)) (stays found)
    have found₁ := h.find?_attempt found (w.map (·.2)) q
    rw [attempt] at first found₁
    exact first.trans (.move first.staffed found₁ _)
  | @wait e₁ q next w v found attempt =>
    have first := Succeeds.attempt (i := i) staffed (w.map (·.2)) (stays found)
    have found₁ := h.find?_attempt found (w.map (·.2)) q
    rw [attempt] at first found₁
    obtain ⟨turn, nextTurn, eq⟩ := e₁.keepWaiting_eq i (.ask q next) w v
    rw [eq]
    have moved := first.trans (.move first.staffed found₁ ⟨.ask q next, some (turn, v)⟩)
    exact moved.trans (.of_workers_eq moved.staffed rfl (Nat.le_refl _) fun _ _ => id)
  | news found => exact .move staffed found _

/-- The signal is never taken back. -/
theorem Step.quiet (s : Step e e') (quiet : e'.signal.value = false) : e.signal.value = false := by
  obtain ⟨_, t⟩ | ext | ext := s.cases
  · rw [← t.extends.signal, quiet]
  · rw [← ext.signal, quiet]
  · rw [ext.signal] at quiet
    cases quiet

theorem Step.succeeds (h : InOrder o e st) (s : Step e e') (quiet : e'.signal.value = false)
    (staffed : e.Staffed) : Succeeds e e' := by
  have before := s.quiet quiet
  cases s with
  | turn t => exact t.succeeds h before staffed
  | outside => exact .of_workers_eq staffed rfl (Nat.le_refl _) fun _ _ => id
  | call => exact .add staffed _
  | startWorker => exact .startWorker staffed _
  | discover => exact .spawn staffed _
  | shutdown =>
    rw [signal_shutdown] at quiet
    cases quiet

theorem Reachable.staffed (h : Reachable o e) (quiet : e.signal.value = false) : e.Staffed := by
  obtain ⟨epoch, steps⟩ := h
  induction steps with
  | refl => exact ⟨nofun, nofun⟩
  | tail before step ih =>
    obtain ⟨st, inOrder⟩ := Reachable.inOrder ⟨epoch, before⟩
    exact (step.succeeds inOrder quiet (ih (step.quiet quiet))).staffed

theorem Steps.quiet (steps : Steps e e') (quiet : e'.signal.value = false) :
    e.signal.value = false := by
  induction steps with
  | refl => exact quiet
  | tail _ step ih => exact ih (step.quiet quiet)

/-- Before a shutdown, the worker of a fleet is so until it ends. -/
theorem Steps.engaged (h : Reachable o e) (steps : Steps e e') (quiet : e'.signal.value = false)
    (engaged : e.Engaged key i) : e'.Engaged key i := by
  induction steps with
  | refl => exact engaged
  | tail before step ih =>
    have before := h.steps before
    have quiet' := step.quiet quiet
    obtain ⟨st, inOrder⟩ := before.inOrder
    exact (step.succeeds inOrder quiet (before.staffed quiet')).engaged key i (ih quiet')

/-! ### New workers -/

/-- There is a new task, and it begins as a worker of the fleet. -/
def StartsWorker (e e' : Ensemble) (i : Nat) (key : FleetKey) : Prop :=
  e.actors.find? i = none ∧
    ∃ a, e'.actors.find? i = some a ∧ a.routine = e.orchestrator.work key

/-- A task that begins as a worker of a fleet is the worker of the fleet. -/
def Registers (e e' : Ensemble) : Prop :=
  ∀ i key, StartsWorker e e' i key → e'.workers.current.find? key = some i

namespace Registers

/-- Without new tasks there are no new workers. -/
theorem of_gone (gone : ∀ i, e.actors.find? i = none → e'.actors.find? i = none) :
    Registers e e' := by
  rintro i key ⟨none, a, found, -⟩
  rw [gone i none] at found
  cases found

theorem add {r : Routine Stage}
    (registered : ∀ key, r = e.orchestrator.work key →
      e.workers.current.find? key = some e.nextActor) : Registers e (e.add r).2 := by
  rintro i key ⟨none, a, found, begins⟩
  rw [find?_add] at found
  split at found
  · next new =>
    obtain rfl := Option.some.inj found
    rw [new]
    exact registered key begins
  · rw [none] at found
    cases found

theorem wakeAll (h : Registers e e₁) (ids : List Nat) : Registers e (e₁.wakeAll ids) := by
  obtain ⟨ready, woken, eq⟩ := e₁.wakeAll_eq ids
  rw [eq]
  exact h

theorem spawn {r : Routine Stage}
    (registered : ∀ key, r = e.orchestrator.work key →
      e.workers.current.find? key = some e.nextActor) : Registers e (e.spawn r).2 :=
  (add registered).wakeAll [e.nextActor]

theorem startWorker (e : Ensemble) (key : FleetKey) : Registers e (e.startWorker key) := by
  unfold Ensemble.startWorker
  split
  · exact of_gone fun _ => id
  · next workers started =>
    obtain ⟨-, enlists⟩ := Workers.start?_eq_some started
    refine spawn (e := { e with workers }) fun k begins => ?_
    obtain rfl := Orchestrator.work_injective begins
    rw [enlists]
    exact SortedMap.find?_insert_self ..

/-- Of several workers each is registered, as it is still there when the last has been started. -/
theorem startWorkers (h : InOrder o e st) (staffed : e.Staffed) (keys : List FleetKey) :
    Registers e (keys.foldl Ensemble.startWorker e) := by
  induction keys generalizing e with
  | nil => exact of_gone fun _ => id
  | cons key keys ih =>
    have h₁ := h.startWorker key
    have staffed₁ := (Succeeds.startWorker staffed key).staffed
    have ext := extends_startWorkers (e.startWorker key) keys
    rintro i k ⟨none, a, found, begins⟩
    change (keys.foldl Ensemble.startWorker (e.startWorker key)).actors.find? i = some a at found
    cases found₁ : (e.startWorker key).actors.find? i with
    | none =>
      refine ih h₁ staffed₁ i k ⟨found₁, a, found, ?_⟩
      rw [(e.extends_startWorker key).orchestrator]
      exact begins
    | some b =>
      have same := ext.find? i (h₁.lt found₁) nofun
      rw [found, found₁] at same
      obtain rfl := Option.some.inj same
      have current := startWorker e key i k ⟨none, a, found₁, begins⟩
      exact ((Succeeds.startWorkers staffed₁ keys).engaged k i (.inl current)).current found

/-- An attempt brings no task but for the workers that it is to start. -/
theorem attempt (h : InOrder o e st) (staffed : e.Staffed) (w : Option Waiting)
    (q : SchedulerQuery) : Registers e (e.attempt i w q).ensemble := by
  obtain ⟨keys, rfl, eq⟩ | ⟨world, gate, workers, ready, woken, -, eq⟩ := e.ensemble_attempt i w q
  · exact startWorkers h staffed keys
  · rw [eq]
    exact of_gone fun _ => id

/-- A task that has been there goes on. -/
theorem move (h : Registers e e₁) {a : Actor} (found : e.actors.find? i = some a) (b : Actor) :
    Registers e { e₁ with actors := e₁.actors.insert i b } := by
  rintro j key ⟨none, c, there, begins⟩
  have other : j ≠ i := by
    rintro rfl
    rw [none] at found
    cases found
  change (e₁.actors.insert i b).find? j = some c at there
  rw [SortedMap.find?_insert, if_neg other] at there
  exact h j key ⟨none, c, there, begins⟩

end Registers

theorem Turn.registers (h : InOrder o e st) (staffed : e.Staffed) (t : Turn i e e') :
    Registers e e' := by
  cases t with
  | @settle stage w found =>
    cases hs : stage.next? e.orchestrator with
    | some r =>
      rw [settleStage_of_some e i hs]
      exact (Registers.of_gone fun _ => id).move found _
    | none =>
      obtain ⟨ready, woken, outcomes, eq⟩ := e.settleStage_of_none i hs
      rw [eq]
      refine .of_gone fun j none => ?_
      rw [SortedMap.find?_erase, none, ite_self]
  | @answer e₁ q next w a found attempt =>
    have first := Registers.attempt (i := i) h staffed (w.map (·.2)) q
    rw [attempt] at first
    exact first.move found _
  | @wait e₁ q next w v found attempt =>
    have first := Registers.attempt (i := i) h staffed (w.map (·.2)) q
    rw [attempt] at first
    obtain ⟨turn, nextTurn, eq⟩ := e₁.keepWaiting_eq i (.ask q next) w v
    rw [eq]
    exact first.move found _
  | news found => exact (Registers.of_gone fun _ => id).move found _

/-- Whoever begins as a worker of a fleet, by itself or at a look of the discovery, is the worker of
the fleet. -/
theorem Step.registers (h : InOrder o e st) (staffed : e.Staffed) (s : Step e e') :
    Registers e e' := by
  cases s with
  | turn t => exact t.registers h staffed
  | outside => exact .of_gone fun _ => id
  | call => exact .add fun _ begins => absurd begins Orchestrator.call_ne_work
  | startWorker => exact .startWorker _ _
  | discover => exact .spawn fun _ begins => absurd begins discover_ne_work
  | shutdown =>
    have sent : Registers e { e with signal := e.signal.send true } := .of_gone fun _ => id
    exact sent.wakeAll _

end Ensemble

end FleetMend
