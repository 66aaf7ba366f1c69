import FleetMend.Proofs.Cycle.Bounds
import FleetMend.Rehearsal.Solo

/-!
The dialogue of a cycle over time.  Computation takes no time, so the clock moves only while a cycle
waits, and a wait ends at the first of four instants: when what it waits for is completed or gives
itself up, at its limit, or with a shutdown.

* `Ending.instant?`: these instants.  What is waited for may take any time, or never be completed.
* `Query.Takes`: the answers that a question can get, and when.
* `Cycle.Passes`: a dialogue with the time at its beginning and at its end.
* `Query.instant`, `Cycle.Passes.of_instant`: a dialogue in which every answer comes at once.
* `Surroundings`: whatever a cycle runs in, as long as its answers keep to that; `Solo.surroundings`
  is the scripted world.
* `Cycle.Passes.le_max`: where no wait has a limit past a deadline, the dialogue ends by then.
-/

namespace FleetMend

/-! ### Waits -/

/-- The milliseconds after which a request gives itself up, if it does. -/
def Request.patience? : Request → Option Nat
  | callWithin _ millis => some millis
  | call _ | pause .. => none

namespace Ending

/-- When a wait that begins now ends in each of the ways, if it ever does.  The duration is that of
the request; none where it is never completed. -/
def instant? (r : Request) (now limit : Nat) (duration stop : Option Nat) : Ending → Option Nat
  | .completed => duration.map (now + ·)
  | .givenUp => r.patience?.map (now + ·)
  | .limit => some (max now limit)
  | .shutdown => stop.map (max now)

/-- What a wait brings that has ended. -/
def Brings : Ending → (r : Request) → Except Abort r.Answer → Prop
  | completed, .call _, x => ∃ reply, x = .ok reply
  | completed, .callWithin .., x => ∃ reply, x = .ok (some reply)
  | completed, .pause .., x => x = .ok ()
  | givenUp, .callWithin .., x => x = .ok none
  | givenUp, .call _, _ | givenUp, .pause .., _ => False
  | limit, _, x => x = .error .limit
  | shutdown, _, x => x = .error .shutdown

end Ending

/-- A wait that begins now may end so and then: in the first of the ways, of two at once in either.
-/
def Request.EndsAt (r : Request) (now limit : Nat) (duration stop : Option Nat)
    (x : Except Abort r.Answer) (later : Nat) : Prop :=
  ∃ ending : Ending, ending.Brings r x ∧ ending.instant? r now limit duration stop = some later ∧
    ∀ other : Ending, ∀ t, other.instant? r now limit duration stop = some t → later ≤ t

/-- The shutdown that begins at an instant, if at all, has begun by now. -/
def hasBegun (stop : Option Nat) (now : Nat) : Bool := stop.any (· ≤ now)

/-- A question that is asked now may get this answer, and then it is so late. -/
def Query.Takes (duration : Request → Option Nat) (stop : Option Nat) (now : Nat) :
    (q : Query) → q.Answer → Nat → Prop
  | await r limit, x, later => r.EndsAt now limit (duration r) stop x later
  | clock, n, later => n = now ∧ later = now
  | shuttingDown, b, later => b = hasBegun stop now ∧ later = now
  | wallClock, _, later | announce .., _, later => later = now

namespace Request.EndsAt

variable {r : Request} {now limit : Nat} {duration stop : Option Nat} {x : Except Abort r.Answer}
  {later : Nat}

theorem le_later (h : r.EndsAt now limit duration stop x later) : now ≤ later := by
  obtain ⟨ending, -, hlater, -⟩ := h
  cases ending with
  | completed =>
    obtain ⟨d, -, rfl⟩ := Option.map_eq_some_iff.1 hlater
    exact Nat.le_add_right now d
  | givenUp =>
    obtain ⟨d, -, rfl⟩ := Option.map_eq_some_iff.1 hlater
    exact Nat.le_add_right now d
  | limit =>
    obtain rfl := Option.some.inj hlater
    exact Nat.le_max_left ..
  | shutdown =>
    obtain ⟨t, -, rfl⟩ := Option.map_eq_some_iff.1 hlater
    exact Nat.le_max_left ..

/-- A wait ends at its limit at the latest, or at once where that has passed. -/
theorem later_le (h : r.EndsAt now limit duration stop x later) : later ≤ max now limit := by
  obtain ⟨-, -, -, first⟩ := h
  exact first .limit (max now limit) rfl

/-- A wait that ends at its limit has lasted so long. -/
theorem limit_le (h : r.EndsAt now limit duration stop (.error .limit) later) : limit ≤ later := by
  obtain ⟨ending, brings, hlater, -⟩ := h
  have ends : ending = .limit := by
    cases ending <;> cases r <;> simp_all [Ending.Brings]
  subst ends
  obtain rfl := Option.some.inj hlater
  exact Nat.le_max_right ..

/-- A wait that ends with a shutdown ends when it has begun. -/
theorem hasBegun (h : r.EndsAt now limit duration stop (.error .shutdown) later) :
    hasBegun stop later = true := by
  obtain ⟨ending, brings, hlater, -⟩ := h
  have ends : ending = .shutdown := by
    cases ending <;> cases r <;> simp_all [Ending.Brings]
  subst ends
  obtain ⟨t, rfl, rfl⟩ := Option.map_eq_some_iff.1 hlater
  exact decide_eq_true (Nat.le_max_right now t)

end Request.EndsAt

/-! ### Dialogues -/

/-- A dialogue that begins and ends at these times, while a shutdown begins then, if at all.  How
long a request takes is open each time that one is made. -/
inductive Cycle.Passes (stop : Option Nat) : Nat → Cycle.Log → Nat → Prop where
  | rest (now : Nat) : Passes stop now [] now
  | next {duration : Request → Option Nat} {now t later : Nat} {q : Query} {a : q.Answer}
    {log : Cycle.Log} (takes : q.Takes duration stop now a t) (passes : Passes stop t log later) :
    Passes stop now (⟨q, a⟩ :: log) later

/-- The question waits no longer than to the deadline. -/
def Query.Until (deadline : Nat) : Query → Prop
  | await _ limit => limit ≤ deadline
  | clock | wallClock | shuttingDown | announce .. => True

namespace Query.Takes

variable {duration : Request → Option Nat} {stop : Option Nat} {now later : Nat} {q : Query}
  {a : q.Answer}

theorem le_later (h : q.Takes duration stop now a later) : now ≤ later := by
  cases q with
  | await r limit => exact Request.EndsAt.le_later h
  | clock | shuttingDown => exact Nat.le_of_eq h.2.symm
  | wallClock | announce => exact Nat.le_of_eq (Eq.symm h)

theorem later_le {deadline : Nat} (h : q.Takes duration stop now a later)
    (hq : q.Until deadline) : later ≤ max now deadline := by
  cases q with
  | await r limit =>
    have reached := Request.EndsAt.later_le h
    have sooner : limit ≤ deadline := hq
    omega
  | clock | shuttingDown => exact Nat.le_trans (Nat.le_of_eq h.2) (Nat.le_max_left ..)
  | wallClock | announce => exact Nat.le_trans (Nat.le_of_eq h) (Nat.le_max_left ..)

end Query.Takes

namespace Cycle.Passes

variable {stop : Option Nat} {now later : Nat} {log : Cycle.Log}

theorem le_later (h : Passes stop now log later) : now ≤ later := by
  induction h with
  | rest => exact Nat.le_refl _
  | next takes _ ih => exact Nat.le_trans takes.le_later ih

/-- Where no wait has a limit past a deadline, the dialogue ends by then, or takes no time. -/
theorem le_max {deadline : Nat} (h : Passes stop now log later)
    (hlog : ∀ e ∈ log, e.1.Until deadline) : later ≤ max now deadline := by
  induction h with
  | rest => exact Nat.le_max_left ..
  | @next _ now t _ _ _ _ takes _ ih =>
    obtain ⟨hq, hlog⟩ := List.forall_mem_cons.1 hlog
    have reached : t ≤ max now deadline := takes.later_le hq
    calc
      _ ≤ max t deadline := ih hlog
      _ ≤ max now deadline := Nat.max_le.2 ⟨reached, Nat.le_max_right ..⟩

end Cycle.Passes

/-! ### Dialogues that take no time -/

/-- The answer comes at once, and the clocks stand still. -/
def Query.instant (now : Nat) (time : Time) : (q : Query) → q.Answer → Bool
  | await (.call _) _, .ok _ | await (.callWithin ..) _, .ok (some _)
  | await (.pause ..) _, .ok _ => true
  | await .., _ => false
  | clock, n => Nat.beq n now
  | wallClock, t => @decide (@Eq Time t time) (instDecidableEqTime t time)
  | shuttingDown, stopping => !stopping
  | announce .., _ => true

/-- A wait for something that takes no time. -/
theorem Request.endsAt_once {r : Request} {now limit : Nat} {x : Except Abort r.Answer}
    (brings : Ending.completed.Brings r x) : r.EndsAt now limit (some 0) none x now := by
  refine ⟨.completed, brings, rfl, fun other t ht => ?_⟩
  cases other with
  | completed => exact Nat.le_of_eq (Option.some.inj ht)
  | givenUp =>
    obtain ⟨d, -, rfl⟩ := Option.map_eq_some_iff.1 ht
    exact Nat.le_add_right now d
  | limit =>
    obtain rfl := Option.some.inj ht
    exact Nat.le_max_left ..
  | shutdown => cases ht

theorem Query.Takes.of_instant {now : Nat} {time : Time} {q : Query} {a : q.Answer}
    (h : q.instant now time a = true) : q.Takes (fun _ => some 0) none now a now := by
  cases q with
  | await r limit =>
    refine Request.endsAt_once ?_
    cases r with
    | call c =>
      rcases a with e | reply
      · cases h
      · exact ⟨reply, rfl⟩
    | callWithin c =>
      rcases a with e | _ | reply
      · cases h
      · cases h
      · exact ⟨reply, rfl⟩
    | pause =>
      rcases a with e | ⟨⟩
      · cases h
      · rfl
  | clock => exact ⟨Nat.eq_of_beq_eq_true h, rfl⟩
  | shuttingDown =>
    cases a with
    | true => cases h
    | false => exact ⟨rfl, rfl⟩
  | wallClock | announce => rfl

theorem Cycle.Passes.of_instant {now : Nat} {time : Time} {log : Cycle.Log}
    (h : ∀ e ∈ log, e.1.instant now time e.2 = true) : Cycle.Passes none now log now := by
  induction log with
  | nil => exact .rest now
  | cons e log ih =>
    obtain ⟨he, h⟩ := List.forall_mem_cons.1 h
    exact .next (.of_instant he) (ih h)

/-! ### Surroundings -/

/-- Whatever a cycle runs in: others may act at any time, calls may fail and take any time, and a
shutdown may begin at any time. -/
structure Surroundings (σ : Type) where
  clock : σ → Nat
  /-- When a shutdown begins. -/
  stop : σ → Option Nat
  /-- How long a request takes; none where it is never completed. -/
  duration : σ → Request → Option Nat
  answer : (q : Query) → σ → q.Answer × σ
  takes (q : Query) (s : σ) :
    q.Takes (duration s) (stop s) (clock s) (answer q s).1 (clock (answer q s).2)
  stop_answer (q : Query) (s : σ) : stop (answer q s).2 = stop s

namespace Surroundings

variable {σ α : Type} (S : Surroundings σ)

/-- The run of a program takes the time of its dialogue. -/
theorem passes (p : Cycle α) (s : σ) :
    Cycle.Passes (S.stop s) (S.clock s) (p.transcript S.answer s)
      (S.clock (p.run S.answer s).2) := by
  induction p generalizing s with
  | done a => exact .rest _
  | ask q next ih =>
    have later := ih (S.answer q s).1 (S.answer q s).2
    rw [S.stop_answer] at later
    exact .next (S.takes q s) later

end Surroundings

/-! ### The scripted world -/

namespace Plan

variable {p : Plan} {t : Option Nat} {e : Ending}

theorem orElse_instant_le : (p.orElse t e).instant ≤ p.instant := by
  cases t with
  | none => exact Nat.le_refl _
  | some t =>
    simp only [orElse]
    split
    · next h => exact Nat.le_of_lt h
    · exact Nat.le_refl _

theorem orElse_instant_le_of_eq_some {u : Nat} (h : t = some u) :
    (p.orElse t e).instant ≤ u := by
  subst h
  simp only [orElse]
  split
  · exact Nat.le_refl _
  · next h => exact Nat.le_of_not_lt h

/-- A plan ends at the instant of its ending where those do that it is made of. -/
theorem instant?_orElse {f : Ending → Option Nat} (hp : f p.ending = some p.instant)
    (he : f e = t) : f (p.orElse t e).ending = some (p.orElse t e).instant := by
  cases t with
  | none => exact hp
  | some u =>
    simp only [orElse]
    split
    · exact he
    · exact hp

end Plan

namespace World

variable {w : World} {now limit : Nat} {stop : Option Nat} {r : Request}

theorem plan_eq : w.plan now r (some limit) stop =
    ((Plan.orElse ⟨now + w.duration r, .completed⟩ (r.patience?.map (now + ·)) .givenUp).orElse
      (some (max now limit)) .limit).orElse (stop.map (max now)) .shutdown := by
  cases r <;> rfl

theorem brings_answer {p : Plan} (h : p.ending = .givenUp → r.patience? ≠ none) :
    p.ending.Brings r (w.answer p r).1 := by
  obtain ⟨instant, ending⟩ := p
  cases ending with
  | completed =>
    cases r with
    | call c | callWithin c => exact ⟨_, rfl⟩
    | pause => rfl
  | givenUp =>
    cases r with
    | callWithin c => rfl
    | call c | pause => exact h rfl rfl
  | limit | shutdown => cases r <;> rfl

/-- A wait in the scripted world ends as planned. -/
theorem endsAt_plan :
    r.EndsAt now limit (some (w.duration r)) stop
      (w.beginRequest r |>.answer (w.plan now r (some limit) stop) r).1
      (w.plan now r (some limit) stop).instant := by
  have lasts : Ending.instant? r now limit (some (w.duration r)) stop
      (w.plan now r (some limit) stop).ending = some (w.plan now r (some limit) stop).instant := by
    rw [plan_eq]
    have own := Plan.instant?_orElse (t := r.patience?.map (now + ·)) (e := .givenUp)
      (f := Ending.instant? r now limit (some (w.duration r)) stop)
      (p := ⟨now + w.duration r, .completed⟩) rfl rfl
    exact Plan.instant?_orElse (Plan.instant?_orElse own rfl) rfl
  refine ⟨_, brings_answer fun given patient => ?_, lasts, fun other t ht => ?_⟩
  · rw [given, Ending.instant?, patient] at lasts
    cases lasts
  · rw [plan_eq]
    cases other with
    | completed =>
      obtain rfl := Option.some.inj ht
      exact Nat.le_trans Plan.orElse_instant_le
        (Nat.le_trans Plan.orElse_instant_le Plan.orElse_instant_le)
    | givenUp =>
      exact Nat.le_trans Plan.orElse_instant_le
        (Nat.le_trans Plan.orElse_instant_le (Plan.orElse_instant_le_of_eq_some ht))
    | limit => exact Nat.le_trans Plan.orElse_instant_le (Plan.orElse_instant_le_of_eq_some ht)
    | shutdown => exact Plan.orElse_instant_le_of_eq_some ht

end World

/-- The scripted world, in which everything is completed sooner or later. -/
def Solo.surroundings : Surroundings Solo where
  clock := now
  stop := shutdownAt
  duration s r := some (s.world.duration r)
  answer := answerQuery
  takes q s := by
    cases q with
    | await r limit => exact World.endsAt_plan
    | clock => exact ⟨rfl, rfl⟩
    | shuttingDown =>
      refine ⟨?_, rfl⟩
      simp only [answerQuery, shuttingDown, hasBegun]
      cases s.shutdownAt <;> rfl
    | wallClock | announce => rfl
  stop_answer q s := by cases q <;> rfl

end FleetMend
