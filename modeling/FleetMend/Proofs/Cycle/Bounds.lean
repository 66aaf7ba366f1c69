import FleetMend.Cycle.Query
import FleetMend.Proofs.Dialogue

/-!
What an errand comes to within the bounds of a cycle.

* `Cycle.ends_within_ask_iff`: a bounded errand waits for each answer, and goes on where it gets
  one.
* `Cycle.ends_within_ok_iff`: it has a result where the errand has, with the answers it got in time.
* `Cycle.race_eq`, `CycleContext.ends_withinDeadline_iff`: the result of a bounded errand.
* `CycleContext.ends_run_ok_iff`: what it takes for an errand that may fail to succeed.
* `CycleContext.replied`: the dialogue of a single call that is answered in time.
* `Cycle.keeps_within` and its like: what a bounded errand asks, and when it has a result.
-/

namespace FleetMend

/-- What a cycle asks, each with the answer it got. -/
abbrev Cycle.Log : Type := Program.Log Query Query.Answer

namespace Cycle

variable {P : Query → Prop} {α : Type} {R : α → Prop} {limit : Nat} {errand : Errand α}

/-- A bounded errand waits for each answer, and goes on where there is one. -/
theorem ends_within_ask_iff {r : Request} {next : r.Answer → Errand α} {log : Cycle.Log}
    {x : Except Abort α} :
    (within limit (.ask r next)).Ends log x ↔
      ∃ (answer : Except Abort r.Answer) (rest : Cycle.Log),
        log = ⟨.await r limit, answer⟩ :: rest ∧
        (match answer with
          | .ok a => within limit (next a)
          | .error e => .done (.error e) : Cycle (Except Abort α)).Ends rest x := by
  rw [within, Program.ends_ask_iff]
  constructor
  · rintro ⟨answer, rest, rfl, h⟩
    exact ⟨answer, rest, rfl, by cases answer <;> exact h⟩
  · rintro ⟨answer, rest, rfl, h⟩
    exact ⟨answer, rest, rfl, by cases answer <;> exact h⟩

/-- A single call that is bounded. -/
theorem ends_within_call_iff {call : Call} {log : Cycle.Log} {x : Except Abort call.Reply} :
    (within limit (Errand.call call)).Ends log x ↔ log = [⟨.await (.call call) limit, x⟩] := by
  refine ends_within_ask_iff.trans ⟨?_, ?_⟩
  · rintro ⟨answer, rest, rfl, h⟩
    cases answer <;> obtain ⟨rfl, rfl⟩ := Program.ends_done_iff.1 h <;> rfl
  · rintro rfl
    exact ⟨x, [], rfl, by cases x <;> exact .done _⟩

/-- A request that got its answer in time. -/
def awaited (limit : Nat) (e : (r : Request) × r.Answer) : (q : Query) × q.Answer :=
  ⟨.await e.1 limit, (.ok e.2 : Except Abort e.1.Answer)⟩

/-- A bounded errand has a result where the errand has, with the answers that it got in time. -/
theorem ends_within_ok_iff {log : Cycle.Log} {a : α} :
    (within limit errand).Ends log (.ok a) ↔
      ∃ calls, errand.Ends calls a ∧ log = calls.map (awaited limit) := by
  induction errand generalizing log with
  | done b =>
    refine Program.ends_done_iff.trans ⟨?_, ?_⟩
    · rintro ⟨rfl, h⟩
      cases h
      exact ⟨[], .done a, rfl⟩
    · rintro ⟨calls, h, rfl⟩
      obtain ⟨rfl, rfl⟩ := Program.ends_done_iff.1 h
      exact ⟨rfl, rfl⟩
  | ask r next ih =>
    refine ends_within_ask_iff.trans ⟨?_, ?_⟩
    · rintro ⟨answer, rest, rfl, h⟩
      cases answer with
      | error e =>
        obtain ⟨-, h⟩ := Program.ends_done_iff.1 h
        cases h
      | ok x =>
        obtain ⟨calls, hcalls, rfl⟩ := (ih x).1 h
        exact ⟨⟨r, x⟩ :: calls, .ask x hcalls, rfl⟩
    · rintro ⟨calls, h, rfl⟩
      obtain ⟨x, rest, rfl, hrest⟩ := Program.ends_ask_iff.1 h
      exact ⟨.ok x, _, rfl, (ih x).2 ⟨rest, hrest, rfl⟩⟩

/-- A bounded errand asks what the errand asks, and has a result only where the errand has. -/
theorem keeps_within (hP : errand.Keeps (fun r => P (.await r limit)) fun _ => True)
    (hR : ∀ log a, errand.Ends log a → R a) :
    (within limit errand).Keeps P fun r => ∀ a, r = .ok a → R a := by
  induction errand with
  | done a =>
    intro b hb
    cases hb
    exact hR [] a (.done a)
  | ask q next ih =>
    rw [within, Program.keeps_ask]
    refine ⟨hP.1, fun x => ?_⟩
    rcases x with e | x
    · exact fun _ h => by cases h
    · exact ih x (hP.2 x) fun log a h => hR _ a (.ask x h)

/-- What a bounded errand comes to. -/
def raced (operation : String) (now limit : Nat) : Except Abort α → Except ControlError α
  | .ok a => .ok a
  | .error .limit => .error (.timedOut operation (limit - now))
  | .error .shutdown => .error (.cancelled operation)

theorem race_eq {operation : String} {now : Nat} :
    race operation now limit errand = raced operation now limit <$> within limit errand := by
  rw [map_eq_pure_bind]
  refine bind_congr fun r => ?_
  rcases r with (_ | _) | _ <;> rfl

theorem ends_race_iff {operation : String} {now : Nat} {log : Cycle.Log}
    {r : Except ControlError α} :
    (race operation now limit errand).Ends log r ↔
      ∃ x, (within limit errand).Ends log x ∧ r = raced operation now limit x := by
  rw [race_eq]
  exact Program.ends_map_iff

theorem raced_eq_ok_iff {operation : String} {now : Nat} {x : Except Abort α} {a : α} :
    raced operation now limit x = .ok a ↔ x = .ok a := by
  rcases x with (_ | _) | _ <;> simp [raced]

theorem keeps_race {operation : String} {now : Nat}
    (hP : errand.Keeps (fun r => P (.await r limit)) fun _ => True)
    (hR : ∀ log a, errand.Ends log a → R a) :
    (race operation now limit errand).Keeps P fun r => ∀ a, r = .ok a → R a := by
  rw [race_eq]
  exact ((keeps_within hP hR).mono (fun _ h => h) fun x hx a ha =>
    hx a (raced_eq_ok_iff.1 ha)).map

theorem keeps_announceAll {key : FleetKey} {events : List Event}
    (h : ∀ e ∈ events, P (.announce key e)) : (announceAll key events).Keeps P fun _ => True := by
  induction events with
  | nil => trivial
  | cons e events ih =>
    obtain ⟨he, h⟩ := List.forall_mem_cons.1 h
    exact (Program.Keeps.put he).bind fun _ _ => ih h

end Cycle

namespace CycleContext

variable {P : Query → Prop} {α : Type} {R : α → Prop} {c : CycleContext} {operation : String}
  {millis : Nat}

/-- A bounded errand starts with a look at the clock, which may set its limit. -/
theorem ends_clock_race_iff {errand : Errand α} {log : Cycle.Log} {r : Except ControlError α}
    (limit : Nat → Nat) :
    (Cycle.clock >>= fun now => Cycle.race operation now (limit now) errand).Ends log r ↔
      ∃ (now : Nat) (x : Except Abort α) (rest : Cycle.Log), log = ⟨.clock, now⟩ :: rest ∧
        (Cycle.within (limit now) errand).Ends rest x ∧
        r = Cycle.raced operation now (limit now) x := by
  refine Program.ends_ask_iff.trans ⟨?_, ?_⟩
  · rintro ⟨now, rest, rfl, race⟩
    obtain ⟨x, hx, rfl⟩ := Cycle.ends_race_iff.1 race
    exact ⟨now, x, rest, rfl, hx, rfl⟩
  · rintro ⟨now, x, rest, rfl, hx, rfl⟩
    exact ⟨now, rest, rfl, Cycle.ends_race_iff.2 ⟨x, hx, rfl⟩⟩

theorem ends_bound_iff {errand : Errand α} {log : Cycle.Log} {r : Except ControlError α} :
    (c.bound operation millis errand).Ends log r ↔
      ∃ (now : Nat) (x : Except Abort α) (rest : Cycle.Log), log = ⟨.clock, now⟩ :: rest ∧
        (Cycle.within (min (now + millis) c.deadline) errand).Ends rest x ∧
        r = Cycle.raced operation now (min (now + millis) c.deadline) x :=
  ends_clock_race_iff fun now => min (now + millis) c.deadline

theorem ends_withinDeadline_iff {errand : Errand α} {log : Cycle.Log}
    {r : Except ControlError α} :
    (c.withinDeadline operation errand).Ends log r ↔
      ∃ (now : Nat) (x : Except Abort α) (rest : Cycle.Log), log = ⟨.clock, now⟩ :: rest ∧
        (Cycle.within c.deadline errand).Ends rest x ∧
        r = Cycle.raced operation now c.deadline x :=
  ends_clock_race_iff fun _ => c.deadline

/-- A single call within a time of its own: the clock, and the answer that is waited for. -/
theorem ends_bound_call_iff {call : Call} {log : Cycle.Log} {r : Except ControlError call.Reply} :
    (c.bound operation millis (Errand.call call)).Ends log r ↔
      ∃ (now : Nat) (x : Except Abort call.Reply),
        log = [⟨.clock, now⟩, ⟨.await (.call call) (min (now + millis) c.deadline), x⟩] ∧
        r = Cycle.raced operation now (min (now + millis) c.deadline) x := by
  refine ends_bound_iff.trans ⟨?_, ?_⟩
  · rintro ⟨now, x, rest, rfl, hx, rfl⟩
    exact ⟨now, x, by rw [Cycle.ends_within_call_iff.1 hx], rfl⟩
  · rintro ⟨now, x, rfl, rfl⟩
    exact ⟨now, x, _, rfl, Cycle.ends_within_call_iff.2 rfl, rfl⟩

/-- An errand that may fail succeeds where it gets its answers in time and does not fail itself. -/
theorem ends_run_ok_iff {errand : Errand (Except ControlError α)} {log : Cycle.Log} {a : α} :
    (c.run operation millis errand).Ends log (.ok a) ↔
      ∃ (now : Nat) (rest : Cycle.Log), log = ⟨.clock, now⟩ :: rest ∧
        (Cycle.within (min (now + millis) c.deadline) errand).Ends rest (.ok (.ok a)) := by
  refine Program.ends_map_iff.trans ⟨?_, ?_⟩
  · rintro ⟨r, bounded, ok⟩
    obtain ⟨now, x, rest, rfl, within, rfl⟩ := ends_bound_iff.1 bounded
    rcases x with (_ | _) | _ | b <;> cases ok
    exact ⟨now, rest, rfl, within⟩
  · rintro ⟨now, rest, rfl, within⟩
    exact ⟨.ok (.ok a), ends_bound_iff.2 ⟨now, _, rest, rfl, within, rfl⟩, rfl⟩

/-- The clock, and the reply to a call that came in time. -/
def replied (c : CycleContext) (millis now : Nat) (call : Call) (reply : call.Reply) : Cycle.Log :=
  [⟨.clock, now⟩, ⟨.await (.call call) (min (now + millis) c.deadline), .ok reply⟩]

theorem ends_bound_call {now : Nat} {call : Call} {reply : call.Reply} :
    (c.bound operation millis (Errand.call call)).Ends (c.replied millis now call reply)
      (.ok reply) :=
  ends_bound_call_iff.2 ⟨now, .ok reply, rfl, rfl⟩

theorem ends_isCancelled {now : Nat} (h : now < c.deadline) :
    c.isCancelled.Ends [⟨.shuttingDown, false⟩, ⟨.clock, now⟩] false := by
  have early : (c.deadline ≤ now : Bool) = false := decide_eq_false (Nat.not_le_of_lt h)
  refine Program.ends_bind_iff.2 ⟨[_], [_], false, rfl, Program.ends_put_iff.2 rfl, ?_⟩
  exact Program.ends_map_iff.2 ⟨now, Program.ends_put_iff.2 rfl, early.symm⟩

theorem keeps_withinDeadline {errand : Errand α} (hclock : P .clock)
    (hP : ∀ limit, errand.Keeps (fun r => P (.await r limit)) fun _ => True)
    (hR : ∀ log a, errand.Ends log a → R a) :
    (c.withinDeadline operation errand).Keeps P fun r => ∀ a, r = .ok a → R a :=
  (Program.Keeps.put hclock).bind fun _ _ => Cycle.keeps_race (hP _) hR

theorem keeps_bound {errand : Errand α} (hclock : P .clock)
    (hP : ∀ limit, errand.Keeps (fun r => P (.await r limit)) fun _ => True) :
    (c.bound operation millis errand).Keeps P fun _ => True :=
  (Program.Keeps.put hclock).bind fun _ _ =>
    (Cycle.keeps_race (R := fun _ => True) (hP _) fun _ _ _ => trivial).mono (fun _ h => h)
      fun _ _ => trivial

theorem keeps_run {errand : Errand (Except ControlError α)} (hclock : P .clock)
    (hP : ∀ limit, errand.Keeps (fun r => P (.await r limit)) fun _ => True) :
    (c.run operation millis errand).Keeps P fun _ => True :=
  (keeps_bound hclock hP).map

end CycleContext

end FleetMend
