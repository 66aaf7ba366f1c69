import FleetMend.Proofs.Scheduler.Conduct
import FleetMend.Proofs.Scheduler.Interleaving
import FleetMend.Proofs.Scheduler.Turnstile

/-!
The tasks of a scheduler before the gate, in whatever order they run.

* `Place.standing`: where a task stands, by what it asks and whether it has begun to wait.
* `Ensemble.InOrder`: each task stands before the gate where its routine has got to.
  `Ensemble.InOrder.step`: every step keeps this so.  `Ensemble.Reachable.inOrder`: so does every run.
-/

namespace FleetMend

/-! ### Standings -/

namespace Place

/-- How far a task has got before the gate when it has not asked anything yet. -/
def start : Place → Standing
  | outside => .outside
  | locked key => .locked key
  | cycling key => .admitted key

/-- How far a task has got before the gate, by what it asks and whether it has begun to wait. -/
def standing (p : Place) (r : Routine Stage) : Bool → Standing
  | false => p.start
  | true =>
    match p, r with
    | outside, .ask (SchedulerQuery.lock key) _ => .inLine key
    | locked key, _ => .applied key
    | p, _ => p.start

@[simp] theorem standing_done (stage : Stage) (waits : Bool) :
    outside.standing (.done stage) waits = .outside := by
  cases waits <;> rfl

/-- Only a question for the lock or for a permit gets a task into a line. -/
theorem standing_of_free {p : Place} {q : SchedulerQuery} {next : q.Answer → Routine Stage}
    (free : ∀ key, p ≠ .locked key) (other : ∀ key, q ≠ .lock key) (waits : Bool) :
    p.standing (.ask q next) waits = p.start := by
  cases waits with
  | false => rfl
  | true =>
  cases p with
  | outside =>
    cases q with
    | lock key => exact absurd rfl (other key)
    | _ => rfl
  | locked key => exact absurd rfl (free key)
  | cycling key => rfl

end Place

/-- The task follows the rules, has been told of a shutdown only if there is one, and has got so far
before the gate. -/
def Actor.Stands (a : Actor) (told : Bool) (s : Standing) : Prop :=
  ∃ m : Manner, a.routine.Conducted m (fun _ m' => m'.place = .outside) ∧ (m.told → told) ∧
    m.place.standing a.routine a.waiting.isSome = s

theorem Actor.stands_new {r : Routine Stage} (told : Bool)
    (conduct : r.Conducted {} fun _ m' => m'.place = .outside) :
    Actor.Stands { routine := r } told .outside :=
  ⟨{}, conduct, nofun, rfl⟩

theorem Actor.Stands.tell {a : Actor} {told : Bool} {s : Standing} (h : a.Stands told s) :
    a.Stands true s := by
  obtain ⟨m, conduct, -, standing⟩ := h
  exact ⟨m, conduct, fun _ => rfl, standing⟩

namespace Ensemble

open Function (update update_self update_of_ne update_eq_self update_idem)

variable {o : Orchestrator} {e e₁ e' : Ensemble} {st : Nat → Standing} {key : FleetKey} {id i : Nat}

/-- Each task stands before the gate where its routine has got to. -/
structure InOrder (o : Orchestrator) (e : Ensemble) (st : Nat → Standing) : Prop where
  orchestrator : e.orchestrator = o
  room : e.gate.room = o.settings.parallelism
  keeps : e.gate.Keeps st
  stands : ∀ i a, e.actors.find? i = some a → a.Stands e.signal.value (st i)
  outside : ∀ i, e.actors.find? i = none → st i = .outside
  fresh : ∀ i, e.nextActor ≤ i → e.actors.find? i = none

namespace InOrder

theorem start (o : Orchestrator) (epoch : Time) : InOrder o (start o epoch) fun _ => .outside where
  orchestrator := rfl
  room := rfl
  keeps := Gate.keeps_empty
  stands _ _ h := by cases h
  outside _ _ := rfl
  fresh _ _ := rfl

theorem lt (h : InOrder o e st) {a : Actor} (found : e.actors.find? i = some a) :
    i < e.nextActor := by
  by_contra hi
  have := h.fresh i (Nat.le_of_not_lt hi)
  rw [found] at this
  cases this

theorem wakeAll (h : InOrder o e st) (ids : List Nat) : InOrder o (e.wakeAll ids) st := by
  obtain ⟨ready, woken, eq⟩ := e.wakeAll_eq ids
  rw [eq]
  exact ⟨h.orchestrator, h.room, h.keeps, h.stands, h.outside, h.fresh⟩

theorem add (h : InOrder o e st) {r : Routine Stage}
    (conduct : r.Conducted {} fun _ m' => m'.place = .outside) : InOrder o (e.add r).2 st where
  orchestrator := h.orchestrator
  room := h.room
  keeps := h.keeps
  stands i a found := by
    rw [find?_add] at found
    split at found
    · next hi =>
      obtain rfl := Option.some.inj found
      rw [hi, h.outside _ (h.fresh _ (Nat.le_refl _))]
      exact Actor.stands_new _ conduct
    · exact h.stands i a found
  outside i gone := by
    rw [find?_add] at gone
    split at gone
    · cases gone
    · exact h.outside i gone
  fresh i hi := by
    change e.nextActor + 1 ≤ i at hi
    rw [find?_add, if_neg (by omega)]
    exact h.fresh i (by omega)

theorem spawn (h : InOrder o e st) {r : Routine Stage}
    (conduct : r.Conducted {} fun _ m' => m'.place = .outside) : InOrder o (e.spawn r).2 st :=
  (h.add conduct).wakeAll [e.nextActor]

theorem startWorker (h : InOrder o e st) (key : FleetKey) : InOrder o (e.startWorker key) st := by
  unfold Ensemble.startWorker
  split
  · exact h
  · next workers _ =>
    have same : InOrder o { e with workers } st :=
      ⟨h.orchestrator, h.room, h.keeps, h.stands, h.outside, h.fresh⟩
    exact same.spawn (Routine.conducted_work rfl)

theorem startWorkers (h : InOrder o e st) (keys : List FleetKey) :
    InOrder o (keys.foldl Ensemble.startWorker e) st := by
  induction keys generalizing e with
  | nil => exact h
  | cons key keys ih => exact ih (h.startWorker key)

/-! ### One task goes on -/

/-- A task goes on, and with it the lines before the gate. -/
theorem move (h : InOrder o e st) {a b : Actor} {s : Standing} {g : Gate}
    (found : e.actors.find? id = some a) (keeps : g.Keeps (update st id s))
    (room : g.room = e.gate.room) (stands : b.Stands e.signal.value s) :
    InOrder o { e with gate := g, actors := e.actors.insert id b } (update st id s) where
  orchestrator := h.orchestrator
  room := room.trans h.room
  keeps := keeps
  stands i c hc := by
    change (e.actors.insert id b).find? i = some c at hc
    rw [SortedMap.find?_insert] at hc
    by_cases hi : i = id
    · rw [if_pos hi] at hc
      obtain rfl := Option.some.inj hc
      rw [hi, update_self]
      exact stands
    · rw [if_neg hi] at hc
      rw [update_of_ne hi]
      exact h.stands i c hc
  outside i gone := by
    change (e.actors.insert id b).find? i = none at gone
    rw [SortedMap.find?_insert] at gone
    split at gone
    · cases gone
    · next hi =>
      rw [update_of_ne hi]
      exact h.outside i gone
  fresh i hi := by
    change (e.actors.insert id b).find? i = none
    rw [SortedMap.find?_insert, if_neg (Nat.ne_of_gt (Nat.lt_of_lt_of_le (h.lt found) hi))]
    exact h.fresh i hi

/-- A task goes on where it stands. -/
theorem stay (h : InOrder o e st) {a b : Actor} (found : e.actors.find? id = some a)
    (stands : b.Stands e.signal.value (st id)) :
    InOrder o { e with actors := e.actors.insert id b } st := by
  have keeps : e.gate.Keeps (update st id (st id)) := by
    rw [update_eq_self]
    exact h.keeps
  have moved := h.move found keeps rfl stands
  rw [update_eq_self] at moved
  exact moved

theorem settle (h : InOrder o e st) {stage : Stage} {w : Option (Nat × Waiting)}
    (found : e.actors.find? id = some ⟨.done stage, w⟩) : InOrder o (e.settleStage id stage) st := by
  obtain ⟨m, conduct, told, standing⟩ := h.stands id _ found
  have out : m.place = .outside := conduct
  have stands : st id = .outside := by rw [← standing, out, Place.standing_done]
  cases hs : stage.next? e.orchestrator with
  | some r =>
    rw [settleStage_of_some e id hs]
    refine h.stay found ⟨m, Routine.conducted_next hs out, told, ?_⟩
    rw [stands]
    exact congrArg Place.start out
  | none =>
    obtain ⟨ready, woken, outcomes, eq⟩ := e.settleStage_of_none id hs
    rw [eq]
    have erased (i : Nat) : (e.actors.erase id).find? i = if i = id then none else e.actors.find? i :=
      SortedMap.find?_erase _ _ _
    refine ⟨h.orchestrator, h.room, h.keeps, fun i a hi => ?_, fun i hi => ?_, fun i hi => ?_⟩
    · rw [erased] at hi
      split at hi
      · cases hi
      · exact h.stands i a hi
    · rw [erased] at hi
      split at hi
      · next eq => rw [eq, stands]
      · exact h.outside i hi
    · rw [erased, h.fresh i hi]
      split <;> rfl

/-! ### Questions -/

/-- An attempt leaves the task that makes it where it was. -/
theorem find?_attempt (h : InOrder o e st) {a : Actor} (found : e.actors.find? id = some a)
    (w : Option Waiting) (q : SchedulerQuery) :
    (e.attempt id w q).ensemble.actors.find? id = some a :=
  ((e.extends_attempt id w q).find? id (h.lt found) nofun).trans found

theorem attempt (h : InOrder o e st) (w : Option Waiting) {q : SchedulerQuery} (quiet : q.Quiet) :
    InOrder o (e.attempt id w q).ensemble st := by
  have frame (world : World) (workers : Workers) : InOrder o { e with world, workers } st :=
    ⟨h.orchestrator, h.room, h.keeps, h.stands, h.outside, h.fresh⟩
  cases q with
  | cycle q =>
    obtain ⟨world, eq⟩ := e.ensemble_attemptCycle w q
    exact eq ▸ frame world e.workers
  | lock | permit | leave => exact quiet.elim
  | rest instant seen => exact (e.ensemble_attemptRest instant seen).symm ▸ h
  | startWorkers keys => exact h.startWorkers keys
  | joinWorkers =>
    obtain ⟨workers, -, eq⟩ := e.ensemble_attemptJoin w
    exact eq ▸ frame e.world workers
  | subscribe | listKeys => exact h

/-- A task is told of a shutdown only if there is one. -/
theorem told_after {m : Manner} {w : Option Waiting} {q : SchedulerQuery} {a : q.Answer}
    (told : m.told → e.signal.value) (attempt : e.attempt id w q = .answered a e₁) :
    (m.after q a).told → e.signal.value := by
  cases q with
  | cycle q =>
    cases q with
    | shuttingDown =>
      cases attempt
      intro h
      rcases Bool.or_eq_true_iff.1 h with h | h
      · exact told h
      · exact h
    | _ => exact told
  | _ => exact told

/-! ### Turns at the gate -/

theorem keeps_lockLine (h : InOrder o e st) {w : Option (Nat × Waiting)}
    {next : Unit → Routine Stage}
    (standing : Place.outside.standing (.ask (SchedulerQuery.lock key) next) w.isSome = st id) :
    (e.lockLine id key (w.map (·.2))).Keeps (update st id (.inLine key)) ∧
      (e.lockLine id key (w.map (·.2))).room = e.gate.room := by
  cases w with
  | none => exact ⟨h.keeps.enter standing.symm, rfl⟩
  | some =>
    have same : update st id (.inLine key) = st :=
      (congrArg (update st id) standing).trans (update_eq_self _ _)
    rw [same]
    exact ⟨h.keeps, rfl⟩

theorem keeps_permitLine (h : InOrder o e st) {w : Option (Nat × Waiting)} {r : Routine Stage}
    (standing : (Place.locked key).standing r w.isSome = st id) :
    (e.permitLine id (w.map (·.2))).Keeps (update st id (.applied key)) ∧
      (e.permitLine id (w.map (·.2))).room = e.gate.room := by
  cases w with
  | none => exact ⟨h.keeps.apply standing.symm, rfl⟩
  | some =>
    have same : update st id (.applied key) = st :=
      (congrArg (update st id) standing).trans (update_eq_self _ _)
    rw [same]
    exact ⟨h.keeps, rfl⟩

/-- A task begins to wait, or waits on, and with it the lines before the gate move. -/
theorem moveWaiting (h : InOrder o e st) {a : Actor} {s : Standing} {g : Gate} {r : Routine Stage}
    {v : Waiting} (w : Option (Nat × Waiting)) (found : e.actors.find? id = some a)
    (keeps : g.Keeps (update st id s)) (room : g.room = e.gate.room)
    (stands : ∀ turn, Actor.Stands ⟨r, some (turn, v)⟩ e.signal.value s) :
    InOrder o ({ e with gate := g }.keepWaiting id r w v) (update st id s) := by
  obtain ⟨turn, nextTurn, eq⟩ := keepWaiting_eq { e with gate := g } id r w v
  rw [eq]
  have moved := h.move found keeps room (stands turn)
  exact ⟨moved.orchestrator, moved.room, moved.keeps, moved.stands, moved.outside, moved.fresh⟩

section

variable {q : SchedulerQuery} {next : q.Answer → Routine Stage} {w : Option (Nat × Waiting)}

/-- A question that is not about the gate is asked outside of it or in a cycle. -/
theorem standing_eq {m : Manner} (quiet : q.Quiet) (allows : m.Allows q) (waits : Bool) :
    m.place.standing (.ask q next) waits = m.place.start := by
  have other : ∀ key, q ≠ .lock key := by
    rintro key rfl
    exact quiet
  exact Place.standing_of_free (Manner.free_of_allows quiet allows) other waits

theorem answer_quiet (h : InOrder o e st) {a : q.Answer} (quiet : q.Quiet)
    (found : e.actors.find? id = some ⟨.ask q next, w⟩)
    (attempt : e.attempt id (w.map (·.2)) q = .answered a e₁) :
    InOrder o { e₁ with actors := e₁.actors.insert id ⟨next a, none⟩ } st := by
  obtain ⟨m, ⟨allows, conduct⟩, told, standing⟩ := h.stands id _ found
  have told' := told_after told attempt
  have h₁ : InOrder o (e.attempt id (w.map (·.2)) q).ensemble st := h.attempt _ quiet
  have found₁ := h.find?_attempt found (w.map (·.2)) q
  have signal := (e.extends_attempt id (w.map (·.2)) q).signal
  rw [attempt] at h₁ found₁ signal
  refine h₁.stay found₁ ⟨m.after q a, conduct a, ?_, ?_⟩
  · rw [signal]
    exact told'
  · rw [← standing, standing_eq quiet allows]
    exact congrArg Place.start (m.place_after quiet a)

theorem wait_quiet (h : InOrder o e st) {v : Waiting} (quiet : q.Quiet)
    (found : e.actors.find? id = some ⟨.ask q next, w⟩)
    (attempt : e.attempt id (w.map (·.2)) q = .blocked v e₁) :
    InOrder o (e₁.keepWaiting id (.ask q next) w v) st := by
  obtain ⟨m, ⟨allows, conduct⟩, told, standing⟩ := h.stands id _ found
  have h₁ : InOrder o (e.attempt id (w.map (·.2)) q).ensemble st := h.attempt _ quiet
  have found₁ := h.find?_attempt found (w.map (·.2)) q
  have signal := (e.extends_attempt id (w.map (·.2)) q).signal
  rw [attempt, Attempt.ensemble_blocked] at h₁ found₁ signal
  have keeps : e₁.gate.Keeps (update st id (st id)) := by
    rw [update_eq_self]
    exact h₁.keeps
  have stands (turn : Nat) : Actor.Stands ⟨.ask q next, some (turn, v)⟩ e₁.signal.value (st id) := by
    refine ⟨m, ⟨allows, conduct⟩, ?_, ?_⟩
    · rw [signal]
      exact told
    · rw [← standing, standing_eq quiet allows, standing_eq quiet allows]
  have moved := h₁.moveWaiting w found₁ keeps rfl stands
  rw [update_eq_self] at moved
  exact moved

theorem news (h : InOrder o e st) {instant seen version : Nat} {next : Option Nat → Routine Stage}
    (found : e.actors.find? id = some ⟨.ask (SchedulerQuery.rest instant seen) next, w⟩) :
    InOrder o { e with actors := e.actors.insert id ⟨next (some version), none⟩ } st := by
  obtain ⟨m, ⟨allows, conduct⟩, told, standing⟩ := h.stands id _ found
  have quiet : (SchedulerQuery.rest instant seen).Quiet := trivial
  have start := (standing_eq quiet allows w.isSome).symm.trans standing
  exact h.stay found ⟨m, conduct (some version), told, start⟩

end

section

variable {next : Unit → Routine Stage} {w : Option (Nat × Waiting)}

theorem answer_lock (h : InOrder o e st)
    (found : e.actors.find? id = some ⟨.ask (SchedulerQuery.lock key) next, w⟩)
    (attempt : e.attemptLock id key (w.map (·.2)) = .answered () e₁) :
    InOrder o { e₁ with actors := e₁.actors.insert id ⟨next (), none⟩ }
      (update st id (.locked key)) := by
  obtain ⟨m, ⟨allows, conduct⟩, told, standing⟩ := h.stands id _ found
  have out : m.place = .outside := allows
  rw [out] at standing
  obtain ⟨keeps, room⟩ := h.keeps_lockLine standing
  rw [attemptLock_eq] at attempt
  split at attempt
  · next turn =>
    cases attempt
    have keeps := keeps.lock (update_self _ _ _) turn
    rw [update_idem] at keeps
    exact h.move found keeps room ⟨_, conduct (), told, rfl⟩
  · cases attempt

theorem wait_lock (h : InOrder o e st) {v : Waiting}
    (found : e.actors.find? id = some ⟨.ask (SchedulerQuery.lock key) next, w⟩)
    (attempt : e.attemptLock id key (w.map (·.2)) = .blocked v e₁) :
    InOrder o (e₁.keepWaiting id (.ask (SchedulerQuery.lock key) next) w v)
      (update st id (.inLine key)) := by
  obtain ⟨m, ⟨allows, conduct⟩, told, standing⟩ := h.stands id _ found
  have out : m.place = .outside := allows
  rw [out] at standing
  obtain ⟨keeps, room⟩ := h.keeps_lockLine standing
  rw [attemptLock_eq] at attempt
  split at attempt
  · cases attempt
  · cases attempt
    exact h.moveWaiting w found keeps room fun turn => ⟨m, ⟨allows, conduct⟩, told, by rw [out]; rfl⟩

theorem answer_permit (h : InOrder o e st)
    (found : e.actors.find? id = some ⟨.ask SchedulerQuery.permit next, w⟩)
    (attempt : e.attemptPermit id (w.map (·.2)) = .answered () e₁) :
    ∃ key, InOrder o { e₁ with actors := e₁.actors.insert id ⟨next (), none⟩ }
      (update st id (.admitted key)) := by
  obtain ⟨m, ⟨allows, conduct⟩, told, standing⟩ := h.stands id _ found
  obtain ⟨key, locked⟩ := allows
  rw [locked] at standing
  obtain ⟨keeps, room⟩ := h.keeps_permitLine standing
  rw [attemptPermit_eq] at attempt
  split at attempt
  · next turn =>
    cases attempt
    have keeps := keeps.permit (update_self _ _ _) turn
    rw [update_idem] at keeps
    refine ⟨key, h.move found keeps room ⟨_, conduct (), told, ?_⟩⟩
    exact congrArg (fun p : Place => p.begin.start) locked
  · cases attempt

theorem wait_permit (h : InOrder o e st) {v : Waiting}
    (found : e.actors.find? id = some ⟨.ask SchedulerQuery.permit next, w⟩)
    (attempt : e.attemptPermit id (w.map (·.2)) = .blocked v e₁) :
    ∃ key, InOrder o (e₁.keepWaiting id (.ask SchedulerQuery.permit next) w v)
      (update st id (.applied key)) := by
  obtain ⟨m, ⟨⟨key, locked⟩, conduct⟩, told, standing⟩ := h.stands id _ found
  rw [locked] at standing
  obtain ⟨keeps, room⟩ := h.keeps_permitLine standing
  rw [attemptPermit_eq] at attempt
  split at attempt
  · cases attempt
  · cases attempt
    refine ⟨key, h.moveWaiting w found keeps room fun turn => ?_⟩
    exact ⟨m, ⟨⟨key, locked⟩, conduct⟩, told, by rw [locked]; rfl⟩

theorem answer_leave (h : InOrder o e st)
    (found : e.actors.find? id = some ⟨.ask (SchedulerQuery.leave key) next, w⟩) :
    InOrder o
      { e.leave id key with actors := (e.leave id key).actors.insert id ⟨next (), none⟩ }
      (update st id .outside) := by
  obtain ⟨m, ⟨allows, conduct⟩, told, standing⟩ := h.stands id _ found
  have cycling : m.place = .cycling key := allows
  have stands : st id = .admitted key := by
    rw [← standing, cycling]
    cases w <;> rfl
  obtain ⟨ready, woken, eq⟩ :=
    wakeAll_eq { e with gate := e.gate.leave key id } (e.gate.successors key id)
  rw [Ensemble.leave, eq]
  have left : Actor.Stands ⟨next (), none⟩ e.signal.value .outside :=
    ⟨m.after (.leave key) (), conduct (), told, rfl⟩
  have moved := h.move found (h.keeps.leave stands) rfl left
  exact ⟨moved.orchestrator, moved.room, moved.keeps, moved.stands, moved.outside, moved.fresh⟩

end

/-! ### Steps -/

theorem turn (h : InOrder o e st) (t : Turn id e e') : ∃ st', InOrder o e' st' := by
  cases t with
  | settle found => exact ⟨st, h.settle found⟩
  | @answer e₁ q next w a found attempt =>
    cases q with
    | lock key => exact ⟨_, h.answer_lock found attempt⟩
    | permit =>
      obtain ⟨key, h'⟩ := h.answer_permit found attempt
      exact ⟨_, h'⟩
    | leave key =>
      cases attempt
      exact ⟨_, h.answer_leave found⟩
    | _ => exact ⟨st, h.answer_quiet trivial found attempt⟩
  | @wait e₁ q next w v found attempt =>
    cases q with
    | lock key => exact ⟨_, h.wait_lock found attempt⟩
    | permit =>
      obtain ⟨key, h'⟩ := h.wait_permit found attempt
      exact ⟨_, h'⟩
    | leave key => cases attempt
    | _ => exact ⟨st, h.wait_quiet trivial found attempt⟩
  | news found => exact ⟨st, h.news found⟩

theorem shutdown (h : InOrder o e st) : InOrder o e.shutdown st := by
  refine wakeAll (e := { e with signal := e.signal.send true }) ?_ _
  exact ⟨h.orchestrator, h.room, h.keeps, fun i a found => (h.stands i a found).tell, h.outside,
    h.fresh⟩

theorem step (h : InOrder o e st) (s : Step e e') : ∃ st', InOrder o e' st' := by
  cases s with
  | turn t => exact h.turn t
  | outside =>
    exact ⟨st, h.orchestrator, h.room, h.keeps, h.stands, h.outside, h.fresh⟩
  | call => exact ⟨st, h.add (Routine.conducted_call rfl)⟩
  | startWorker => exact ⟨st, h.startWorker _⟩
  | discover => exact ⟨st, h.spawn (Routine.conducted_discover rfl)⟩
  | shutdown => exact ⟨st, h.shutdown⟩

end InOrder

theorem Reachable.inOrder (h : Reachable o e) : ∃ st, InOrder o e st := by
  obtain ⟨epoch, steps⟩ := h
  induction steps with
  | refl => exact ⟨_, InOrder.start o epoch⟩
  | tail _ step ih =>
    obtain ⟨st, h⟩ := ih
    exact h.step step

end Ensemble

end FleetMend
