import FleetMend.Proofs.Scheduler.Staff

/-!
The cycles of a scheduler, in whatever order its tasks run.

* `Ensemble.AsksLock`, `Ensemble.AsksPermit`, `Ensemble.InFlight`: where a call has got to.
  `Ensemble.CanProceed`: its question has an answer.  `Ensemble.Works`: a task was started as a worker
  of a fleet, whatever the register says of it, and has not ended.
* `Ensemble.InOrder.whereabouts`: where a task stands says which of these it does.
* `Ensemble.Serialized`: one cycle of a fleet at a time, no more cycles than there is room for, no
  call that waits in vain, and before a shutdown one worker of a fleet.
* `Ensemble.Reachable.serialized`: so it is in every run.
-/

namespace FleetMend

/-- With the lock, a task asks for a permit, and then has a cycle under way. -/
theorem Routine.asksPermit {r : Routine Stage} {m : Manner} {key : FleetKey}
    (conduct : r.Conducted m fun _ m' => m'.place = .outside) (place : m.place = .locked key) :
    ∃ next, r = .ask SchedulerQuery.permit next ∧ UnderWay key (next ()) := by
  cases r with
  | done stage => exact Place.noConfusion (Eq.trans (Eq.symm conduct) place)
  | ask q next =>
    obtain ⟨allows, conduct⟩ := conduct
    have quiet (h : q.Quiet) : False := Manner.free_of_allows h allows key place
    cases q with
    | permit =>
      refine ⟨next, rfl, UnderWay.of_place (conduct ()) ?_ fun _ _ => id⟩
      exact congrArg Place.begin place
    | lock k => exact Place.noConfusion (Eq.trans (Eq.symm allows) place)
    | leave k => exact Place.noConfusion (Eq.trans (Eq.symm allows) place)
    | _ => exact (quiet trivial).elim

namespace Ensemble

variable {o : Orchestrator} {e e₁ e' : Ensemble} {st : Nat → Standing} {key : FleetKey} {i j : Nat}

/-! ### Where a call has got to -/

/-- A call asks for the lock of the fleet. -/
def AsksLock (e : Ensemble) (i : Nat) (key : FleetKey) : Prop :=
  ∃ next w, e.actors.find? i = some ⟨.ask (SchedulerQuery.lock key) next, w⟩

/-- A call asks for a permit for a cycle of the fleet. -/
def AsksPermit (e : Ensemble) (i : Nat) (key : FleetKey) : Prop :=
  ∃ next w, e.actors.find? i = some ⟨.ask SchedulerQuery.permit next, w⟩ ∧
    Routine.UnderWay key (next ())

/-- A call waits for its turn. -/
def Waits (e : Ensemble) (i : Nat) (key : FleetKey) : Prop :=
  e.AsksLock i key ∨ e.AsksPermit i key

/-- A task has a cycle of the fleet under way. -/
def InFlight (e : Ensemble) (i : Nat) (key : FleetKey) : Prop :=
  ∃ r w, e.actors.find? i = some ⟨r, w⟩ ∧ Routine.UnderWay key r

/-- There is an answer to what the task asks. -/
def CanProceed (e : Ensemble) (i : Nat) : Prop :=
  ∃ q next w a e₁, e.actors.find? i = some ⟨.ask q next, w⟩ ∧
    e.attempt i (w.map (·.2)) q = .answered a e₁

/-- What a task does that stands there. -/
inductive Whereabouts (e : Ensemble) (i : Nat) : Standing → Prop where
  | outside : Whereabouts e i .outside
  | inLine {key : FleetKey} {next : Unit → Routine Stage} {v : Nat × Waiting}
      (found : e.actors.find? i = some ⟨.ask (SchedulerQuery.lock key) next, some v⟩) :
      Whereabouts e i (.inLine key)
  | locked {key : FleetKey} {next : Unit → Routine Stage}
      (found : e.actors.find? i = some ⟨.ask SchedulerQuery.permit next, none⟩)
      (under : Routine.UnderWay key (next ())) : Whereabouts e i (.locked key)
  | applied {key : FleetKey} {next : Unit → Routine Stage} {v : Nat × Waiting}
      (found : e.actors.find? i = some ⟨.ask SchedulerQuery.permit next, some v⟩)
      (under : Routine.UnderWay key (next ())) : Whereabouts e i (.applied key)
  | admitted {key : FleetKey} (h : e.InFlight i key) : Whereabouts e i (.admitted key)

namespace InOrder

theorem whereabouts (h : InOrder o e st) (i : Nat) : e.Whereabouts i (st i) := by
  cases found : e.actors.find? i with
  | none =>
    rw [h.outside i found]
    exact .outside
  | some a =>
    obtain ⟨r, w⟩ := a
    obtain ⟨m, conduct, -, standing⟩ := h.stands i _ found
    rw [← standing]
    cases place : m.place with
    | cycling key =>
      have flight : e.InFlight i key := ⟨r, w, found, .of_place conduct place fun _ _ => id⟩
      cases w <;> exact .admitted flight
    | locked key =>
      obtain ⟨next, rfl, under⟩ := Routine.asksPermit conduct place
      cases w with
      | none => exact .locked found under
      | some v => exact .applied found under
    | outside =>
      cases w with
      | none => exact .outside
      | some v =>
        cases r with
        | done stage => exact .outside
        | ask q next =>
          cases q with
          | lock key => exact .inLine found
          | _ => exact .outside

theorem of_asksLock (h : InOrder o e st) {next : Unit → Routine Stage} {w : Option (Nat × Waiting)}
    (found : e.actors.find? i = some ⟨.ask (SchedulerQuery.lock key) next, w⟩) :
    Place.outside.standing (.ask (SchedulerQuery.lock key) next) w.isSome = st i := by
  obtain ⟨m, ⟨allows, -⟩, -, standing⟩ := h.stands i _ found
  have out : m.place = .outside := allows
  rw [← standing, out]

theorem of_asksPermit (h : InOrder o e st) {next : Unit → Routine Stage}
    {w : Option (Nat × Waiting)}
    (found : e.actors.find? i = some ⟨.ask SchedulerQuery.permit next, w⟩)
    (under : Routine.UnderWay key (next ())) :
    (Place.locked key).standing (.ask SchedulerQuery.permit next) w.isSome = st i := by
  obtain ⟨m, ⟨⟨k, locked⟩, conduct⟩, -, standing⟩ := h.stands i _ found
  have cycling : m.place.begin = .cycling key := under.place_eq (conduct ())
  rw [locked] at cycling
  obtain rfl : k = key := Place.cycling.inj cycling
  rw [← standing, locked]

theorem of_inFlight (h : InOrder o e st) (flight : e.InFlight i key) : st i = .admitted key := by
  obtain ⟨r, w, found, under⟩ := flight
  obtain ⟨m, conduct, -, standing⟩ := h.stands i _ found
  rw [← standing, under.place_eq conduct]
  cases w <;> rfl

/-! ### Who can go on -/

theorem canProceed_of_hasLock {next : Unit → Routine Stage} {w : Option (Nat × Waiting)}
    (found : e.actors.find? i = some ⟨.ask (SchedulerQuery.lock key) next, w⟩)
    (turn : (e.lockLine i key (w.map (·.2))).hasLock key i) : e.CanProceed i := by
  have answered : e.attempt i (w.map (·.2)) (.lock key) = .answered () _ :=
    (e.attemptLock_eq i key _).trans (if_pos turn)
  exact ⟨.lock key, next, w, _, _, found, answered⟩

theorem canProceed_of_hasPermit {next : Unit → Routine Stage} {w : Option (Nat × Waiting)}
    (found : e.actors.find? i = some ⟨.ask SchedulerQuery.permit next, w⟩)
    (turn : (e.permitLine i (w.map (·.2))).hasPermit i) : e.CanProceed i := by
  have answered : e.attempt i (w.map (·.2)) .permit = .answered () _ :=
    (e.attemptPermit_eq i _).trans (if_pos turn)
  exact ⟨.permit, next, w, _, _, found, answered⟩

/-- A call that asks for a lock is the first in line, or another is. -/
theorem canProceed_or_line (h : InOrder o e st) (asks : e.AsksLock i key) :
    e.CanProceed i ∨ ∃ j ≠ i, (st j).line? = some key := by
  obtain ⟨next, w, found⟩ := asks
  obtain ⟨keeps, -⟩ := h.keeps_lockLine (h.of_asksLock found)
  have member : i ∈ (e.lockLine i key (w.map (·.2))).line key := by
    rw [(keeps.fits i).mem_line, Function.update_self]
    rfl
  cases hl : (e.lockLine i key (w.map (·.2))).line key with
  | nil => simp [hl] at member
  | cons j rest =>
    by_cases hj : j = i
    · refine .inl (canProceed_of_hasLock found (Gate.hasLock_iff.2 ?_))
      rw [hl, hj]
      rfl
    · have first := ((keeps.fits j).mem_line key).1 (by simp [hl])
      rw [Function.update_of_ne hj] at first
      exact .inr ⟨j, hj, first⟩

/-- A permit is in use for a cycle, or can be at once. -/
theorem of_mem_admitted (h : InOrder o e st) (hj : j ∈ e.gate.admitted) :
    ∃ key, e.InFlight j key ∨ e.AsksPermit j key ∧ e.CanProceed j := by
  have applied := (h.keeps.fits j).mem_permits.1 (List.mem_of_mem_take hj)
  have there := h.whereabouts j
  generalize st j = s at there applied
  cases there with
  | outside | inLine | locked => cases applied
  | @applied key _ _ found under =>
    have can := canProceed_of_hasPermit found (Gate.hasPermit_iff.2 hj)
    exact ⟨key, .inr ⟨⟨_, _, found, under⟩, can⟩⟩
  | @admitted key flight => exact ⟨key, .inl flight⟩

/-- A call that asks for a permit gets it, or finds all of them taken by others. -/
theorem canProceed_or_full (h : InOrder o e st) (asks : e.AsksPermit i key) :
    e.CanProceed i ∨ i ∉ e.gate.admitted ∧ e.gate.admitted.length = e.gate.room := by
  obtain ⟨next, w, found, under⟩ := asks
  obtain ⟨keeps, -⟩ := h.keeps_permitLine (h.of_asksPermit found under)
  by_cases turn : (e.permitLine i (w.map (·.2))).hasPermit i
  · exact .inl (canProceed_of_hasPermit found turn)
  have member : i ∈ (e.permitLine i (w.map (·.2))).permits := by
    rw [(keeps.fits i).mem_permits, Function.update_self]
    rfl
  refine .inr ⟨fun hi => turn ?_, ?_⟩
  · have before := Gate.hasPermit_iff.2 hi
    cases w with
    | none => exact Gate.hasPermit_apply before i
    | some => exact before
  · -- With room to spare, the call would have its permit.
    rw [Gate.admitted, List.length_take, Nat.min_eq_left]
    by_contra short
    refine turn (Gate.hasPermit_iff.2 ?_)
    rw [List.take_of_length_le]
    · exact member
    · cases w with
      | none =>
        show (e.gate.permits ++ [i]).length ≤ e.gate.room
        rw [List.length_append, List.length_singleton]
        omega
      | some =>
        show e.gate.permits.length ≤ e.gate.room
        omega

theorem room_pos (h : InOrder o e st) : 0 < e.gate.room := by
  rw [h.room, Settings.parallelism]
  omega

/-- While no cycle is under way, the first in some line can go on. -/
theorem progress (h : InOrder o e st) (idle : ∀ j key, ¬e.InFlight j key)
    (stands : (st i).line? = some key) : ∃ j key, e.Waits j key ∧ e.CanProceed j := by
  have none_admitted : ∀ j key, st j ≠ .admitted key := by
    intro j key hj
    have there := h.whereabouts j
    rw [hj] at there
    cases there with
    | admitted flight => exact idle j key flight
  obtain ⟨j, k, hj, turn⟩ | ⟨empty, ⟨j, hj, turn⟩ | ⟨j, hj⟩⟩ :=
    h.keeps.moves_on h.room_pos none_admitted stands
  all_goals
    have there := h.whereabouts j
    rw [hj] at there
  · cases there with
    | applied found under =>
      exact ⟨j, k, .inr ⟨_, _, found, under⟩, canProceed_of_hasPermit found turn⟩
  · cases there with
    | inLine found => exact ⟨j, key, .inl ⟨_, _, found⟩, canProceed_of_hasLock found turn⟩
  · cases there with
    | locked found under =>
      refine ⟨j, key, .inr ⟨_, _, found, under⟩, canProceed_of_hasPermit found ?_⟩
      rw [Gate.hasPermit_iff]
      show j ∈ (e.gate.permits ++ [j]).take e.gate.room
      obtain ⟨n, hn⟩ := Nat.exists_eq_add_one.2 h.room_pos
      simp [empty, hn]

end InOrder

/-! ### Every run -/

/-- Some step has started the task as a worker of the fleet, and it has not ended since. -/
def Works (o : Orchestrator) (e : Ensemble) (i : Nat) (key : FleetKey) : Prop :=
  (∃ a, e.actors.find? i = some a) ∧
    ∃ e₀ e₁, Reachable o e₀ ∧ Step e₀ e₁ ∧ StartsWorker e₀ e₁ i key ∧ Steps e₁ e

structure Serialized (o : Orchestrator) (e : Ensemble) : Prop where
  /-- No two cycles of a fleet are under way. -/
  exclusive : ∀ i j key, e.InFlight i key → e.InFlight j key → i = j
  /-- No more cycles are under way than there is room for. -/
  bounded : ∀ calls : List Nat, calls.Nodup → (∀ i ∈ calls, ∃ key, e.InFlight i key) →
    calls.length ≤ max o.settings.maxConcurrent 1
  /-- A call that asks for a lock has no permit, nor has it a place in the line for one. -/
  unpermitted : ∀ i key, e.AsksLock i key → i ∉ e.gate.permits
  /-- A call waits for a lock only where there is another call for the same fleet. -/
  lock : ∀ i key, e.AsksLock i key → e.CanProceed i ∨ ∃ j ≠ i, e.Waits j key ∨ e.InFlight j key
  /-- A call waits for a permit only where each of them is in use for a cycle, or can be at once. -/
  permit : ∀ i key, e.AsksPermit i key → e.CanProceed i ∨ ∃ calls : List Nat, calls.Nodup ∧
    calls.length = max o.settings.maxConcurrent 1 ∧
    ∀ j ∈ calls, j ≠ i ∧ ∃ key, e.InFlight j key ∨ e.AsksPermit j key ∧ e.CanProceed j
  /-- While a call waits, a cycle is under way, or a call that waits can go on. -/
  progress : ∀ i key, e.Waits i key →
    (∃ j key, e.InFlight j key) ∨ ∃ j key, e.Waits j key ∧ e.CanProceed j
  /-- Before a shutdown, a fleet has no two workers. -/
  workers : e.signal.value = false → ∀ i j key, Works o e i key → Works o e j key → i = j

theorem InOrder.exists_call (h : InOrder o e st) (stands : (st j).line? = some key) :
    e.Waits j key ∨ e.InFlight j key := by
  have there := h.whereabouts j
  generalize st j = s at there stands
  cases there with
  | outside => cases stands
  | inLine found =>
    obtain rfl := Option.some.inj stands
    exact .inl (.inl ⟨_, _, found⟩)
  | locked found under | applied found under =>
    obtain rfl := Option.some.inj stands
    exact .inl (.inr ⟨_, _, found, under⟩)
  | admitted flight =>
    obtain rfl := Option.some.inj stands
    exact .inr flight

/-- Before a shutdown, whoever works for a fleet is the worker of the fleet. -/
theorem current_of_works (quiet : e.signal.value = false) (works : Works o e i key) :
    e.workers.current.find? key = some i := by
  obtain ⟨⟨a, found⟩, e₀, e₁, before, step, starts, steps⟩ := works
  have quiet₁ := steps.quiet quiet
  obtain ⟨st, inOrder⟩ := before.inOrder
  have current := step.registers inOrder (before.staffed (step.quiet quiet₁)) i key starts
  exact (Steps.engaged (before.steps (.single step)) steps quiet (.inl current)).current found

/-- **One cycle of a fleet at a time.**  However the tasks of a scheduler take turns, whoever calls
for cycles and starts workers, and whatever becomes of the world: calls are in order before the gate,
and can go on; and before a shutdown no two of the workers that were started for a fleet are there
at once. -/
theorem Reachable.serialized (h : Reachable o e) : Serialized o e := by
  obtain ⟨st, inOrder⟩ := h.inOrder
  have room : e.gate.room = max o.settings.maxConcurrent 1 := by
    rw [inOrder.room, Settings.parallelism, Nat.max_comm]
  refine ⟨?exclusive, ?bounded, ?unpermitted, ?lock, ?permit, ?progress, ?workers⟩
  case exclusive =>
    intro i j key hi hj
    have locks {i : Nat} (hi : e.InFlight i key) : (st i).lock? = some key := by
      rw [inOrder.of_inFlight hi]
      rfl
    exact inOrder.keeps.exclusive (locks hi) (locks hj)
  case bounded =>
    intro calls distinct flights
    rw [← room]
    refine inOrder.keeps.length_le_room distinct ?_
    intro i hi
    obtain ⟨key, flight⟩ := flights i hi
    exact ⟨key, inOrder.of_inFlight flight⟩
  case unpermitted =>
    rintro i key ⟨next, w, found⟩ permit
    have applied := (inOrder.keeps.fits i).mem_permits.1 permit
    rw [← inOrder.of_asksLock found] at applied
    cases w <;> cases applied
  case lock =>
    intro i key asks
    refine (inOrder.canProceed_or_line asks).imp id ?_
    rintro ⟨j, hj, stands⟩
    exact ⟨j, hj, inOrder.exists_call stands⟩
  case permit =>
    intro i key asks
    refine (inOrder.canProceed_or_full asks).imp id ?_
    rintro ⟨others, full⟩
    refine ⟨e.gate.admitted, inOrder.keeps.nodup_permits.sublist (List.take_sublist _ _),
      full.trans room, fun j hj => ⟨?_, inOrder.of_mem_admitted hj⟩⟩
    rintro rfl
    exact others hj
  case progress =>
    intro i key waits
    by_cases flight : ∃ j key, e.InFlight j key
    · exact .inl flight
    have idle : ∀ j key, ¬e.InFlight j key := fun j key hj => flight ⟨j, key, hj⟩
    refine .inr ?_
    rcases waits with asks | ⟨next, w, found, under⟩
    · rcases inOrder.canProceed_or_line asks with can | ⟨j, -, stands⟩
      · exact ⟨i, key, .inl asks, can⟩
      · exact inOrder.progress idle stands
    · have stands : (st i).line? = some key := by
        rw [← inOrder.of_asksPermit found under]
        cases w <;> rfl
      exact inOrder.progress idle stands
  case workers =>
    intro quiet i j key hi hj
    exact Option.some.inj
      ((current_of_works quiet hi).symm.trans (current_of_works quiet hj))

/-! ### A worker and a call for one fleet

A worker of a fleet is started, and started again, and then the discovery finds the fleet.  The
worker is in its first cycle when there is a call from outside for the same fleet. -/

namespace Contended

def orchestrator : Orchestrator := .ofSettings {}

def fleet : FleetKey := ⟨"default", "osmosis"⟩

def interval : Nat := 30000

def store : Store :=
  SortedMap.empty.insert fleet { key := fleet, version := 1, spec := { replicas := 3 } }

def start : Ensemble := { Ensemble.start orchestrator ⟨0, false⟩ with world := { store } }

/-- The worker is started. -/
def started : Ensemble := start.startWorker fleet

/-- It is started again, and the discovery has had its first look. -/
def found : Ensemble := poll 7 1 ((started.startWorker fleet).spawn (discover interval)).2

/-- The worker has got the lock and a permit, and then the call has asked for the lock. -/
def ensemble : Ensemble := poll 1 2 ((poll 4 0 found).add (orchestrator.call fleet)).2

theorem reachable_start : Reachable orchestrator start :=
  ⟨⟨0, false⟩, .single (.outside _ 0 { store } [] [] false)⟩

theorem steps_started : Steps started ensemble :=
  .head (.startWorker _ fleet) <| .head (.discover _ interval) <| (steps_poll 7 1 _).trans <|
    (steps_poll 4 0 found).trans <| .head (.call _ fleet) (steps_poll 1 2 _)

theorem reachable : Reachable orchestrator ensemble :=
  reachable_start.steps (.head (.startWorker _ fleet) steps_started)

theorem works : Works orchestrator ensemble 0 fleet :=
  ⟨⟨_, rfl⟩, start, started, reachable_start, .startWorker _ fleet, ⟨rfl, _, rfl, rfl⟩,
    steps_started⟩

theorem inFlight : ensemble.InFlight 0 fleet := ⟨_, _, rfl, (Routine.underWay_ofCycle _ _).bind _⟩

theorem asksLock : ensemble.AsksLock 2 fleet := ⟨_, _, rfl⟩

end Contended

open Contended (ensemble fleet interval) in
/-- There are the worker, the discovery, which has looked and waits for its next look, and the call,
and no other task. -/
theorem Reachable.serialized_contended :
    Reachable Contended.orchestrator ensemble ∧ ensemble.nextActor = 3 ∧
      (∃ w, ensemble.actors.find? 1 = some ⟨discoveryRound interval interval 0, w⟩) ∧
      ensemble.InFlight 0 fleet ∧ ensemble.AsksLock 2 fleet ∧ ensemble.signal.value = false ∧
      Works Contended.orchestrator ensemble 0 fleet ∧
      (∀ i, Works Contended.orchestrator ensemble i fleet → i = 0) ∧
      Serialized Contended.orchestrator ensemble := by
  have serialized := Contended.reachable.serialized
  exact ⟨Contended.reachable, rfl, ⟨_, rfl⟩, Contended.inFlight, Contended.asksLock, rfl,
    Contended.works, fun i other => serialized.workers rfl i 0 fleet other Contended.works,
    serialized⟩

end Ensemble

end FleetMend
