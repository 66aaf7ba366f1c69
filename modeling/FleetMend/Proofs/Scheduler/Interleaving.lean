import FleetMend.Rehearsal.Ensemble
import Mathlib.Logic.Relation

/-!
The tasks of a scheduler in whatever order they run.

* `Ensemble.Turn`: one task makes its next step.  `Ensemble.Step`: a task makes its next step, or one
  from outside calls for a cycle, starts a worker or the discovery, sends the signal for a shutdown,
  or lets anything become of the clock and of the world.
* `Ensemble.Reachable`: some steps lead there from the start.
* `Ensemble.Extends`: all tasks are as they were.  `Ensemble.Turn.find?_of_ne`: a step of one task
  leaves the others alone.
* `Ensemble.steps_poll`, `Ensemble.steps_drain`, `Ensemble.steps_runUntil`, `Ensemble.steps_runToEnd`,
  `Ensemble.steps_callAll`: the order in which a rehearsal lets them run is one of these.
-/

namespace FleetMend

namespace Attempt

variable {q : SchedulerQuery}

/-- The ensemble after an attempt. -/
def ensemble : Attempt q → Ensemble
  | answered _ e | blocked _ e => e

@[simp] theorem ensemble_blocked (w : Waiting) (e : Ensemble) :
    (blocked w e : Attempt q).ensemble = e := rfl

end Attempt

namespace Ensemble

/-! ### Steps -/

/-- The task of a number settles a stage, gets an answer, or waits for one.  Where a rest is over and
there is news of the signal too, either may end it. -/
inductive Turn (id : Nat) : Ensemble → Ensemble → Prop where
  | settle {e : Ensemble} {stage : Stage} {w : Option (Nat × Waiting)}
      (found : e.actors.find? id = some ⟨.done stage, w⟩) : Turn id e (e.settleStage id stage)
  | answer {e e₁ : Ensemble} {q : SchedulerQuery} {next : q.Answer → Routine Stage}
      {w : Option (Nat × Waiting)} {a : q.Answer}
      (found : e.actors.find? id = some ⟨.ask q next, w⟩)
      (attempt : e.attempt id (w.map (·.2)) q = .answered a e₁) :
      Turn id e { e₁ with actors := e₁.actors.insert id ⟨next a, none⟩ }
  | wait {e e₁ : Ensemble} {q : SchedulerQuery} {next : q.Answer → Routine Stage}
      {w : Option (Nat × Waiting)} {v : Waiting}
      (found : e.actors.find? id = some ⟨.ask q next, w⟩)
      (attempt : e.attempt id (w.map (·.2)) q = .blocked v e₁) :
      Turn id e (e₁.keepWaiting id (.ask q next) w v)
  | news {e : Ensemble} {instant seen version : Nat} {next : Option Nat → Routine Stage}
      {w : Option (Nat × Waiting)}
      (found : e.actors.find? id = some ⟨.ask (SchedulerQuery.rest instant seen) next, w⟩)
      (heard : e.signal.news? seen = some version) :
      Turn id e { e with actors := e.actors.insert id ⟨next (some version), none⟩ }

inductive Step : Ensemble → Ensemble → Prop where
  | turn {id : Nat} {e e' : Ensemble} (h : Turn id e e') : Step e e'
  /-- Whoever is woken need not run, and whoever runs need not have been woken. -/
  | outside (e : Ensemble) (now : Nat) (world : World) (ready callers : List Nat) (woken : Bool) :
      Step e { e with now, world, ready, callers, callersWoken := woken }
  | call (e : Ensemble) (key : FleetKey) : Step e (e.add (e.orchestrator.call key)).2
  | startWorker (e : Ensemble) (key : FleetKey) : Step e (e.startWorker key)
  | discover (e : Ensemble) (interval : Nat) : Step e (e.spawn (FleetMend.discover interval)).2
  | shutdown (e : Ensemble) : Step e e.shutdown

abbrev Steps : Ensemble → Ensemble → Prop := Relation.ReflTransGen Step

/-- Whatever the world, the clock and the order of the steps. -/
def Reachable (o : Orchestrator) (e : Ensemble) : Prop := ∃ epoch, Steps (start o epoch) e

theorem Reachable.steps {o : Orchestrator} {e e' : Ensemble} (h : Reachable o e)
    (more : Steps e e') : Reachable o e' := by
  obtain ⟨epoch, h⟩ := h
  exact ⟨epoch, h.trans more⟩

variable (e : Ensemble)

/-! ### What stays -/

theorem wakeAll_eq (ids : List Nat) :
    ∃ ready woken, e.wakeAll ids = { e with ready, callersWoken := woken } := by
  induction ids generalizing e with
  | nil => exact ⟨e.ready, e.callersWoken, rfl⟩
  | cons id ids ih =>
    show ∃ ready woken, (e.wake id).wakeAll ids = _
    unfold wake
    split
    · exact ih _
    · split <;> exact ih _

theorem keepWaiting_eq (id : Nat) (r : Routine Stage) (before : Option (Nat × Waiting))
    (w : Waiting) :
    ∃ turn next, e.keepWaiting id r before w =
      { e with actors := e.actors.insert id ⟨r, some (turn, w)⟩, nextTurn := next } := by
  cases before with
  | none => exact ⟨_, _, rfl⟩
  | some turn => exact ⟨_, e.nextTurn, rfl⟩

theorem settleStage_of_some (id : Nat) {stage : Stage} {r : Routine Stage}
    (h : stage.next? e.orchestrator = some r) :
    e.settleStage id stage = { e with actors := e.actors.insert id { routine := r } } := by
  simp only [settleStage, h]

/-- A task that ends is no task any more. -/
theorem settleStage_of_none (id : Nat) {stage : Stage} (h : stage.next? e.orchestrator = none) :
    ∃ ready woken outcomes, e.settleStage id stage =
      { e with
        actors := e.actors.erase id
        workers := e.workers.finish id
        ready, outcomes
        callersWoken := woken } := by
  simp only [settleStage, h, retire]
  obtain ⟨ready, woken, eq⟩ := wakeAll_eq
    { e with actors := e.actors.erase id, workers := e.workers.finish id } _
  rw [eq]
  cases stage <;> exact ⟨_, _, _, rfl⟩

/-- The tasks are those that there were, each where it was unless it has moved, and perhaps new ones;
the signal is the same. -/
structure Extends (moved : Option Nat) (e e' : Ensemble) : Prop where
  orchestrator : e'.orchestrator = e.orchestrator
  signal : e'.signal = e.signal
  nextActor_le : e.nextActor ≤ e'.nextActor
  find? : ∀ i < e.nextActor, some i ≠ moved → e'.actors.find? i = e.actors.find? i

theorem extends_refl (moved : Option Nat) : Extends moved e e :=
  ⟨rfl, rfl, Nat.le_refl _, fun _ _ _ => rfl⟩

variable {e} in
theorem Extends.trans {moved : Option Nat} {e₁ e₂ : Ensemble} (h : Extends moved e e₁)
    (h' : Extends moved e₁ e₂) : Extends moved e e₂ where
  orchestrator := h'.orchestrator.trans h.orchestrator
  signal := h'.signal.trans h.signal
  nextActor_le := Nat.le_trans h.nextActor_le h'.nextActor_le
  find? i hi hm := (h'.find? i (Nat.lt_of_lt_of_le hi h.nextActor_le) hm).trans (h.find? i hi hm)

variable {e} in
theorem Extends.move {e₁ : Ensemble} (h : Extends none e e₁) {id : Nat}
    {actors : SortedMap Nat Actor} (others : ∀ i ≠ id, actors.find? i = e₁.actors.find? i) :
    Extends (some id) e { e₁ with actors } where
  orchestrator := h.orchestrator
  signal := h.signal
  nextActor_le := h.nextActor_le
  find? i hi hm := (others i fun hid => hm (hid ▸ rfl)).trans (h.find? i hi nofun)

theorem extends_wakeAll (ids : List Nat) : Extends none e (e.wakeAll ids) := by
  obtain ⟨ready, woken, eq⟩ := e.wakeAll_eq ids
  rw [eq]
  exact ⟨rfl, rfl, Nat.le_refl _, fun _ _ _ => rfl⟩

theorem extends_shutdown : Extends none { e with signal := e.signal.send true } e.shutdown :=
  extends_wakeAll _ _

theorem signal_shutdown : e.shutdown.signal = e.signal.send true := e.extends_shutdown.signal

theorem find?_add (r : Routine Stage) (i : Nat) :
    (e.add r).2.actors.find? i =
      if i = e.nextActor then some { routine := r } else e.actors.find? i :=
  SortedMap.find?_insert ..

theorem extends_add (r : Routine Stage) : Extends none e (e.add r).2 where
  orchestrator := rfl
  signal := rfl
  nextActor_le := Nat.le_succ _
  find? i hi _ := by rw [find?_add, if_neg (Nat.ne_of_lt hi)]

theorem extends_spawn (r : Routine Stage) : Extends none e (e.spawn r).2 :=
  (e.extends_add r).trans ((e.add r).2.extends_wakeAll [e.nextActor])

theorem extends_startWorker (key : FleetKey) : Extends none e (e.startWorker key) := by
  unfold startWorker
  split
  · exact e.extends_refl none
  · next workers _ =>
    have same : Extends none e { e with workers } := ⟨rfl, rfl, Nat.le_refl _, fun _ _ _ => rfl⟩
    exact same.trans (extends_spawn _ _)

theorem extends_startWorkers (keys : List FleetKey) :
    Extends none e (keys.foldl startWorker e) := by
  induction keys generalizing e with
  | nil => exact e.extends_refl none
  | cons key keys ih => exact (e.extends_startWorker key).trans (ih _)

/-! ### Attempts -/

theorem ensemble_attemptCycle (w : Option Waiting) (q : Query) :
    ∃ world, (e.attemptCycle w q).ensemble = { e with world } := by
  cases q with
  | await r limit =>
    simp only [attemptCycle, attemptAwait]
    generalize (if e.signal.value then some e.now else none) = stop
    split <;> split <;> exact ⟨_, rfl⟩
  | clock | wallClock | shuttingDown => exact ⟨e.world, rfl⟩
  | announce => exact ⟨_, rfl⟩

/-- The gate once a call is in line for a lock: from the first attempt on. -/
def lockLine (id : Nat) (key : FleetKey) (w : Option Waiting) : Gate :=
  if w.isSome then e.gate else e.gate.enter key id

/-- The gate once a call is in line for a permit: from the first attempt on. -/
def permitLine (id : Nat) (w : Option Waiting) : Gate :=
  if w.isSome then e.gate else e.gate.apply id

theorem attemptLock_eq (id : Nat) (key : FleetKey) (w : Option Waiting) :
    e.attemptLock id key w =
      if (e.lockLine id key w).hasLock key id then .answered () { e with gate := e.lockLine id key w }
      else .blocked .lock { e with gate := e.lockLine id key w } := by
  cases w <;> rfl

theorem attemptPermit_eq (id : Nat) (w : Option Waiting) :
    e.attemptPermit id w =
      if (e.permitLine id w).hasPermit id then .answered () { e with gate := e.permitLine id w }
      else .blocked .permit { e with gate := e.permitLine id w } := by
  cases w <;> rfl

theorem ensemble_attemptRest (instant seen : Nat) : (e.attemptRest instant seen).ensemble = e := by
  unfold attemptRest
  split
  · rfl
  · split <;> rfl

/-- The workers are taken off the list at the first attempt. -/
theorem ensemble_attemptJoin (w : Option Waiting) :
    ∃ workers, (workers = e.workers ∨ workers = e.workers.release.2) ∧
      (e.attemptJoin w).ensemble = { e with workers } := by
  simp only [attemptJoin]
  split
  · exact ⟨e.workers, .inl rfl, by split <;> rfl⟩
  · exact ⟨e.workers.release.2, .inr rfl, by split <;> rfl⟩

/-- An attempt starts workers, or may change the world, move the lines before the gate and wake
others; only the end of the discovery takes the workers off the list. -/
theorem ensemble_attempt (id : Nat) (w : Option Waiting) (q : SchedulerQuery) :
    (∃ keys, q = .startWorkers keys ∧ (e.attempt id w q).ensemble = keys.foldl startWorker e) ∨
      ∃ world gate workers ready woken, (q = .joinWorkers ∨ workers = e.workers) ∧
        (e.attempt id w q).ensemble =
          { e with world, gate, workers, ready, callersWoken := woken } := by
  cases q with
  | cycle q =>
    obtain ⟨world, eq⟩ := e.ensemble_attemptCycle w q
    exact .inr ⟨world, e.gate, e.workers, e.ready, e.callersWoken, .inr rfl, eq⟩
  | lock key =>
    refine .inr ⟨e.world, e.lockLine id key w, e.workers, e.ready, e.callersWoken, .inr rfl, ?_⟩
    simp only [attempt, attemptLock_eq]
    split <;> rfl
  | permit =>
    refine .inr ⟨e.world, e.permitLine id w, e.workers, e.ready, e.callersWoken, .inr rfl, ?_⟩
    simp only [attempt, attemptPermit_eq]
    split <;> rfl
  | leave key =>
    obtain ⟨ready, woken, eq⟩ :=
      wakeAll_eq { e with gate := e.gate.leave key id } (e.gate.successors key id)
    exact .inr ⟨e.world, e.gate.leave key id, e.workers, ready, woken, .inr rfl, eq⟩
  | rest instant seen =>
    exact .inr ⟨e.world, e.gate, e.workers, e.ready, e.callersWoken, .inr rfl,
      e.ensemble_attemptRest instant seen⟩
  | startWorkers keys => exact .inl ⟨keys, rfl, rfl⟩
  | joinWorkers =>
    obtain ⟨workers, -, eq⟩ := e.ensemble_attemptJoin w
    exact .inr ⟨e.world, e.gate, workers, e.ready, e.callersWoken, .inl rfl, eq⟩
  | subscribe | listKeys =>
    exact .inr ⟨e.world, e.gate, e.workers, e.ready, e.callersWoken, .inr rfl, rfl⟩

/-- An attempt leaves all tasks where they were. -/
theorem extends_attempt (id : Nat) (w : Option Waiting) (q : SchedulerQuery) :
    Extends none e (e.attempt id w q).ensemble := by
  obtain ⟨keys, rfl, eq⟩ | ⟨world, gate, workers, ready, woken, -, eq⟩ := e.ensemble_attempt id w q
  · exact e.extends_startWorkers keys
  · rw [eq]
    exact ⟨rfl, rfl, Nat.le_refl _, fun _ _ _ => rfl⟩

/-! ### Turns -/

variable {e} {e' : Ensemble} {id : Nat}

theorem Turn.extends (h : Turn id e e') : Extends (some id) e e' := by
  have others (m : SortedMap Nat Actor) (a : Actor) :
      ∀ i ≠ id, (m.insert id a).find? i = m.find? i :=
    fun i hi => by rw [SortedMap.find?_insert, if_neg hi]
  cases h with
  | @settle stage w found =>
    cases hs : stage.next? e.orchestrator with
    | some r =>
      rw [settleStage_of_some e id hs]
      exact (e.extends_refl none).move (others _ _)
    | none =>
      obtain ⟨ready, woken, outcomes, eq⟩ := e.settleStage_of_none id hs
      rw [eq]
      exact ((e.extends_refl none).move fun i hi => by rw [SortedMap.find?_erase, if_neg hi]).trans
        ⟨rfl, rfl, Nat.le_refl _, fun _ _ _ => rfl⟩
  | @answer e₁ q next w a found attempt =>
    have h₁ := e.extends_attempt id (w.map (·.2)) q
    rw [attempt] at h₁
    exact h₁.move (others _ _)
  | @wait e₁ q next w v found attempt =>
    have h₁ := e.extends_attempt id (w.map (·.2)) q
    rw [attempt] at h₁
    obtain ⟨turn, nextTurn, eq⟩ := e₁.keepWaiting_eq id (.ask q next) w v
    rw [eq]
    exact (h₁.move (others _ _)).trans ⟨rfl, rfl, Nat.le_refl _, fun _ _ _ => rfl⟩
  | news => exact (e.extends_refl none).move (others _ _)

/-- One task moves, or none; a shutdown is all that changes the signal. -/
theorem Step.cases (h : Step e e') :
    (∃ id, Turn id e e') ∨ Extends none e e' ∨
      Extends none { e with signal := e.signal.send true } e' := by
  cases h with
  | turn h => exact .inl ⟨_, h⟩
  | outside => exact .inr (.inl ⟨rfl, rfl, Nat.le_refl _, fun _ _ _ => rfl⟩)
  | call => exact .inr (.inl (extends_add _ _))
  | startWorker => exact .inr (.inl (extends_startWorker _ _))
  | discover => exact .inr (.inl (extends_spawn _ _))
  | shutdown => exact .inr (.inr (extends_shutdown e))

theorem Steps.nextActor_le (steps : Steps e e') : e.nextActor ≤ e'.nextActor := by
  induction steps with
  | refl => exact Nat.le_refl _
  | tail _ s ih =>
    refine Nat.le_trans ih ?_
    obtain ⟨_, t⟩ | ext | ext := s.cases
    · exact t.extends.nextActor_le
    · exact ext.nextActor_le
    · exact ext.nextActor_le

/-- A task that there is stays where it is but for its own turns. -/
theorem Step.turn_or_find? {i : Nat} (s : Step e e') (lt : i < e.nextActor) :
    Turn i e e' ∨ e'.actors.find? i = e.actors.find? i := by
  obtain ⟨id, t⟩ | ext | ext := s.cases
  · by_cases hi : i = id
    · exact .inl (hi ▸ t)
    · exact .inr (t.extends.find? i lt fun he => hi (Option.some.inj he))
  · exact .inr (ext.find? i lt nofun)
  · exact .inr (ext.find? i lt nofun)

/-! ### Rehearsals -/

theorem steps_poll (fuel id : Nat) (e : Ensemble) : Steps e (poll fuel id e) := by
  induction fuel generalizing e with
  | zero => exact .refl
  | succ fuel ih =>
    unfold poll
    split
    · exact .refl
    · next found => exact .head (.turn (.settle found)) (ih _)
    · next found =>
      split
      · next attempt => exact .head (.turn (.answer found attempt)) (ih _)
      · next attempt => exact .single (.turn (.wait found attempt))

theorem steps_drain (fuel : Nat) (e : Ensemble) : Steps e (drain fuel e) := by
  induction fuel generalizing e with
  | zero => exact .refl
  | succ fuel ih =>
    unfold drain
    split
    · exact .refl
    · next rest _ =>
      have taken := Step.outside e e.now e.world rest e.callers e.callersWoken
      exact .head taken ((steps_poll _ _ _).trans (ih _))

theorem step_arrive (e : Ensemble) (instant : Nat) : Step e (e.arrive instant) := by
  unfold arrive
  obtain ⟨ready, woken, eq⟩ := wakeAll_eq { e with now := instant } _
  rw [eq]
  exact .outside e instant e.world ready e.callers woken

theorem steps_runUntil (fuel instant : Nat) (e : Ensemble) : Steps e (runUntil fuel instant e) := by
  induction fuel generalizing e with
  | zero => exact .refl
  | succ fuel ih =>
    simp only [runUntil]
    split
    · exact (steps_drain fuel e).tail (step_arrive _ _)
    · split
      · exact ((steps_drain fuel e).tail (step_arrive _ _)).trans (ih _)
      · exact (steps_drain fuel e).tail (step_arrive _ _)

theorem steps_runToEnd (fuel id : Nat) (e : Ensemble) : Steps e (runToEnd fuel id e) := by
  induction fuel generalizing e with
  | zero => exact .refl
  | succ fuel ih =>
    simp only [runToEnd]
    split
    · exact .refl
    · split
      · exact steps_drain fuel e
      · split
        · exact steps_drain fuel e
        · exact ((steps_drain fuel e).tail (step_arrive _ _)).trans (ih _)

theorem steps_pollCallers (fuel : Nat) (e : Ensemble) : Steps e (e.pollCallers fuel) := by
  have polled (ids : List Nat) (e₁ : Ensemble) :
      Steps e₁ (ids.foldl (fun e id => e.poll fuel id) e₁) := by
    induction ids generalizing e₁ with
    | nil => exact .refl
    | cons id ids ih => exact (steps_poll fuel id e₁).trans (ih _)
  exact .head (.outside e e.now e.world e.ready e.callers false) (polled _ _)

theorem steps_runCallers (fuel : Nat) (e : Ensemble) : Steps e (runCallers fuel e) := by
  induction fuel generalizing e with
  | zero => exact .refl
  | succ fuel ih =>
    have first : Steps e (if e.callersWoken then e.pollCallers fuel else e) := by
      split
      · exact steps_pollCallers fuel e
      · exact .refl
    simp only [runCallers]
    generalize (if e.callersWoken then e.pollCallers fuel else e) = e₁ at first ⊢
    split
    · exact first
    · have drained := first.trans (steps_drain fuel e₁)
      split
      · exact drained.trans (ih _)
      · split
        · exact drained
        · exact (drained.tail (step_arrive _ _)).trans (ih _)

/-- What happens for one thing after the other is a run where it is one for each. -/
theorem steps_foldl {α β : Type} {f : α × Ensemble → β → α × Ensemble}
    (each : ∀ p b, Steps p.2 (f p b).2) (l : List β) (p : α × Ensemble) :
    Steps p.2 (l.foldl f p).2 := by
  induction l generalizing p with
  | nil => exact .refl
  | cons b rest ih => exact (each p b).trans (ih (f p b))

theorem steps_callAll (fuel : Nat) (keys : List FleetKey) (e : Ensemble) :
    Steps e (e.callAll fuel keys).2 := by
  simp only [callAll]
  generalize calls : keys.foldl _ _ = called
  have added : Steps e called.2 := by
    rw [← calls]
    refine steps_foldl ?_ keys ([], e)
    exact fun p key => .single (.call p.2 key)
  obtain ⟨ids, e₁⟩ := called
  have waiting := Step.outside e₁ e₁.now e₁.world e₁.ready ids true
  have ran := (added.tail waiting).trans (steps_runCallers fuel _)
  generalize runCallers fuel _ = e₂ at ran ⊢
  exact ran.tail (.outside e₂ e₂.now e₂.world e₂.ready [] e₂.callersWoken)

end Ensemble

end FleetMend
