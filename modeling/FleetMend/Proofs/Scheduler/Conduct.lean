import FleetMend.Scheduler.Routine

/-!
How the tasks of the scheduler go about the gate.

* `Program.Follows`: along every dialogue of a program, each question is one that its state allows.
* `Manner`: where a task is before the gate, and whether it has been told of a shutdown.  A task asks
  for a lock, then for a permit, then nothing but what a cycle asks, and then leaves; it joins the
  workers only after it has been told.
* `Routine.conducted_next`: every round of every task follows these rules.
* `Routine.UnderWay`: what is left of a routine is a cycle that has begun, and then leaving.
-/

namespace FleetMend

namespace Program

variable {Q : Type} {A : Q → Type} {α β σ : Type} {allows : σ → Q → Prop}
  {after : σ → (q : Q) → A q → σ}

/-- Whatever the answers, every question is one that the state allows, and the result fits the state
in the end; each answer changes the state. -/
def Follows (allows : σ → Q → Prop) (after : σ → (q : Q) → A q → σ) (fits : α → σ → Prop) :
    Program Q A α → σ → Prop
  | done a, s => fits a s
  | ask q next, s => allows s q ∧ ∀ x, (next x).Follows allows after fits (after s q x)

theorem Follows.bind {fits : α → σ → Prop} {fits' : β → σ → Prop} {p : Program Q A α}
    {f : α → Program Q A β} {s : σ} (h : p.Follows allows after fits s)
    (hf : ∀ a s, fits a s → (f a).Follows allows after fits' s) :
    (p >>= f).Follows allows after fits' s := by
  induction p generalizing s with
  | done a => exact hf a s h
  | ask q next ih => exact ⟨h.1, fun x => ih x (h.2 x)⟩

end Program

/-- The question is not about the gate. -/
def SchedulerQuery.Quiet : SchedulerQuery → Prop
  | lock _ | permit | leave _ => False
  | cycle _ | subscribe | rest .. | listKeys | startWorkers _ | joinWorkers => True

/-- Where a task is before the gate. -/
inductive Place
  | outside
  /-- It has the lock of a fleet. -/
  | locked (key : FleetKey)
  /-- It has the lock and a permit. -/
  | cycling (key : FleetKey)
deriving DecidableEq

/-- With a permit, the cycle begins. -/
def Place.begin : Place → Place
  | locked key => cycling key
  | p => p

structure Manner where
  place : Place := .outside
  /-- The task has been told of a shutdown. -/
  told : Bool := false

namespace Manner

/-- What a task may ask. -/
def Allows (m : Manner) : SchedulerQuery → Prop
  | .lock _ => m.place = .outside
  | .permit => ∃ key, m.place = .locked key
  | .cycle _ => ∀ key, m.place ≠ .locked key
  | .leave key => m.place = .cycling key
  | .joinWorkers => m.place = .outside ∧ m.told
  | .subscribe | .rest .. | .listKeys | .startWorkers _ => m.place = .outside

/-- What the answer to a question changes. -/
def after (m : Manner) : (q : SchedulerQuery) → q.Answer → Manner
  | .lock key, _ => { m with place := .locked key }
  | .permit, _ => { m with place := m.place.begin }
  | .leave _, _ => { m with place := .outside }
  | .cycle .shuttingDown, (told : Bool) => { m with told := m.told || told }
  | _, _ => m

theorem place_after {q : SchedulerQuery} (m : Manner) (quiet : q.Quiet) (x : q.Answer) :
    (m.after q x).place = m.place := by
  cases q with
  | cycle q => cases q <;> rfl
  | lock | permit | leave => exact quiet.elim
  | subscribe | rest | listKeys | startWorkers | joinWorkers => rfl

/-- With the lock, a task asks for a permit and nothing else. -/
theorem free_of_allows {q : SchedulerQuery} {m : Manner} (quiet : q.Quiet) (allows : m.Allows q) :
    ∀ key, m.place ≠ .locked key := by
  cases q with
  | cycle q => exact allows
  | lock | permit | leave => exact quiet.elim
  | joinWorkers =>
    intro key hk
    exact Place.noConfusion (allows.1.symm.trans hk)
  | subscribe | rest | listKeys | startWorkers =>
    intro key hk
    exact Place.noConfusion (Eq.trans (Eq.symm allows) hk)

end Manner

namespace Routine

variable {α β : Type} {o : Orchestrator} {key : FleetKey} {m : Manner}

/-- The routine follows the rules, and its result is in `fits` with where the task is then. -/
abbrev Conducted (r : Routine α) (m : Manner) (fits : α → Manner → Prop) : Prop :=
  r.Follows Manner.Allows Manner.after fits m

/-- A cycle leaves a task where it is. -/
theorem conducted_ofCycle (c : Cycle α) (free : ∀ key, m.place ≠ .locked key) :
    (ofCycle c).Conducted m fun _ m' => m'.place = m.place := by
  induction c generalizing m with
  | done a => rfl
  | ask q next ih =>
    refine ⟨free, fun x => ?_⟩
    have same := m.place_after (q := .cycle q) trivial x
    have rest := ih x (m := m.after (.cycle q) x) (same ▸ free)
    rw [same] at rest
    exact rest

/-- A task comes back to where it was before. -/
theorem conducted_reconcileOnce (out : m.place = .outside) :
    (o.reconcileOnce key).Conducted m fun _ m' => m'.place = .outside := by
  refine ⟨out, fun _ => ⟨⟨key, rfl⟩, fun _ => ?_⟩⟩
  refine (conducted_ofCycle _ (by simp [Manner.after, Place.begin])).bind fun a m' hm => ?_
  exact ⟨hm, fun _ => rfl⟩

theorem conducted_shuttingDown (out : m.place = .outside) :
    (ofCycle Cycle.shuttingDown).Conducted m fun b m' => m'.place = .outside ∧ (b → m'.told) :=
  ⟨by simp [Manner.Allows, out], fun b => ⟨out, fun hb => by simp [Manner.after, hb]⟩⟩

theorem conducted_workerRound {seen : Nat} (out : m.place = .outside) :
    (o.workerRound key seen).Conducted m fun _ m' => m'.place = .outside := by
  refine (conducted_shuttingDown out).bind fun stop m₁ h₁ => ?_
  split
  · exact h₁.1
  refine (conducted_reconcileOnce h₁.1).bind fun outcome m₂ h₂ => ?_
  split
  · exact h₂
  refine (conducted_ofCycle Cycle.clock (by simp [h₂])).bind fun now m₃ h₃ => ?_
  refine ⟨h₃.trans h₂, fun news => ?_⟩
  cases news with
  | none => exact h₃.trans h₂
  | some version =>
    refine (conducted_shuttingDown (h₃.trans h₂)).bind fun stop m₄ h₄ => ?_
    split <;> exact h₄.1

/-- The discovery joins the workers only when it has been told of the shutdown. -/
theorem conducted_discoveryRound {interval instant seen : Nat} (out : m.place = .outside) :
    (discoveryRound interval instant seen).Conducted m fun _ m' => m'.place = .outside := by
  refine ⟨out, fun news => ?_⟩
  cases news with
  | none =>
    refine ⟨out, fun keys => ?_⟩
    cases keys with
    | error e => exact out
    | ok keys => exact ⟨out, fun _ => out⟩
  | some version =>
    refine (conducted_shuttingDown out).bind fun stop m₁ h₁ => ?_
    split
    · next hs => exact ⟨⟨h₁.1, h₁.2 hs⟩, fun _ => h₁.1⟩
    · exact h₁.1

theorem conducted_call (out : m.place = .outside) :
    (o.call key).Conducted m fun _ m' => m'.place = .outside := by
  rw [Orchestrator.call, map_eq_pure_bind]
  exact (conducted_reconcileOnce out).bind fun _ _ h => h

theorem conducted_work (out : m.place = .outside) :
    (o.work key).Conducted m fun _ m' => m'.place = .outside :=
  ⟨out, fun _ => conducted_workerRound out⟩

theorem conducted_discover {interval : Nat} (out : m.place = .outside) :
    (discover interval).Conducted m fun _ m' => m'.place = .outside := by
  refine (conducted_ofCycle Cycle.clock (by simp [out])).bind fun now m₁ h₁ => ?_
  exact ⟨h₁.trans out, fun _ => conducted_discoveryRound (h₁.trans out)⟩

theorem conducted_next {stage : Stage} {r : Routine Stage} (h : stage.next? o = some r)
    (out : m.place = .outside) : r.Conducted m fun _ m' => m'.place = .outside := by
  cases stage with
  | work key seen =>
    obtain rfl := Option.some.inj h
    exact conducted_workerRound out
  | discover interval instant seen =>
    obtain rfl := Option.some.inj h
    exact conducted_discoveryRound out
  | answered | finished => cases h

/-! ### Cycles under way -/

/-- Whatever the answers, the routine asks what a cycle asks, and then leaves the gate of the fleet.
-/
inductive UnderWay (key : FleetKey) : Routine α → Prop where
  | cycle {q : Query} {next : q.Answer → Routine α} (h : ∀ x, UnderWay key (next x)) :
    UnderWay key (.ask (SchedulerQuery.cycle q) next)
  | leave {next : Unit → Routine α} : UnderWay key (.ask (SchedulerQuery.leave key) next)

theorem underWay_ofCycle (c : Cycle α) (f : α → Unit → Routine β) :
    UnderWay key (ofCycle c >>= fun a => .ask (SchedulerQuery.leave key) (f a)) := by
  induction c with
  | done a => exact .leave
  | ask q next ih => exact .cycle ih

theorem UnderWay.bind {r : Routine α} (h : UnderWay key r) (f : α → Routine β) :
    UnderWay key (r >>= f) := by
  induction h with
  | cycle _ ih => exact .cycle ih
  | leave => exact .leave

end Routine

/-- Every question of a cycle has an answer. -/
theorem Query.nonempty_answer (q : Query) : Nonempty q.Answer := by
  cases q with
  | await r limit => exact ⟨(.error .limit : Except Abort r.Answer)⟩
  | clock => exact ⟨(0 : Nat)⟩
  | wallClock => exact ⟨(⟨0, false⟩ : Time)⟩
  | shuttingDown => exact ⟨false⟩
  | announce => exact ⟨()⟩

namespace Routine

variable {α : Type} {key : FleetKey} {r : Routine α} {m : Manner}

/-- A cycle is under way only where the task has the lock and a permit. -/
theorem UnderWay.place_eq {fits : α → Manner → Prop} (h : UnderWay key r)
    (hr : r.Conducted m fits) : m.place = .cycling key := by
  induction h generalizing m with
  | @cycle q next _ ih =>
    obtain ⟨x⟩ := q.nonempty_answer
    exact (m.place_after (q := .cycle q) trivial x).symm.trans (ih x (hr.2 x))
  | leave => exact hr.1

/-- A task with the lock and a permit has a cycle under way until it leaves. -/
theorem UnderWay.of_place {fits : α → Manner → Prop} (hr : r.Conducted m fits)
    (place : m.place = .cycling key) (out : ∀ a m', fits a m' → m'.place = .outside) :
    UnderWay key r := by
  induction r generalizing m with
  | done a => exact Place.noConfusion ((out a m hr).symm.trans place)
  | ask q next ih =>
    cases q with
    | cycle q =>
      exact .cycle fun x => ih x (hr.2 x) ((m.place_after (q := .cycle q) trivial x).trans place)
    | leave k =>
      obtain rfl : k = key := by simpa [Manner.Allows, place, eq_comm] using hr.1
      exact .leave
    | lock | permit | subscribe | rest | listKeys | startWorkers | joinWorkers =>
      have := hr.1
      simp [Manner.Allows, place] at this

end Routine

end FleetMend
