import FleetMend.Proofs.Cycle.Ordinary

/-!
Two cycles beside each other.

* `Query.Unhindered`: an answer that neither the deadline nor a shutdown has to do with.
  `Cycle.Passes.unhindered`: a dialogue that is over before either has such answers only.
* `Cycle.heard`: what a dialogue waits for, with what comes of it.
* `Alike`: of two such lists, the same request gets the same answer after the same answers.
* `Cycle.Twins`: two programs that go on alike wherever they get the same answers, each with a
  deadline of its own.  The clock may show them different times.
* `Cycle.Twins.eq`: in dialogues that are unhindered and alike, twins wait for the same requests,
  tell the same and come to the same.
* `CycleContext.twins_run` and its like: an errand within the bounds of two cycles.
-/

namespace FleetMend

/-! ### Unhindered dialogues -/

/-- Neither the deadline nor a shutdown has to do with the answer. -/
def Query.Unhindered (deadline : Nat) : (q : Query) → q.Answer → Prop
  | await _ limit, .error .limit => limit < deadline
  | await .., .error .shutdown => False
  | await .., .ok _ => True
  | clock, now => Nat.lt now deadline
  | shuttingDown, stopping => stopping = false
  | wallClock, _ | announce .., _ => True

theorem hasBegun_mono {stop : Option Nat} {now later : Nat} (h : now ≤ later)
    (late : hasBegun stop later = false) : hasBegun stop now = false := by
  cases stop with
  | none => rfl
  | some t =>
    have before : ¬t ≤ later := of_decide_eq_false late
    exact decide_eq_false fun ht => before (Nat.le_trans ht h)

theorem Query.Takes.unhindered {duration : Request → Option Nat} {stop : Option Nat}
    {now later deadline : Nat} {q : Query} {a : q.Answer} (h : q.Takes duration stop now a later)
    (inTime : later < deadline) (running : hasBegun stop later = false) :
    q.Unhindered deadline a := by
  cases q with
  | await r limit =>
    rcases a with (_ | _) | a
    · exact Nat.lt_of_le_of_lt (Request.EndsAt.limit_le h) inTime
    · exact absurd (Request.EndsAt.hasBegun h) (by rw [running]; exact Bool.false_ne_true)
    · trivial
  | clock =>
    obtain ⟨rfl, rfl⟩ := h
    exact inTime
  | shuttingDown =>
    obtain ⟨rfl, rfl⟩ := h
    exact running
  | wallClock | announce => trivial

/-- A dialogue that is over before its deadline and before a shutdown is unhindered. -/
theorem Cycle.Passes.unhindered {stop : Option Nat} {now later deadline : Nat} {log : Cycle.Log}
    (h : Cycle.Passes stop now log later) (inTime : later < deadline)
    (running : hasBegun stop later = false) : ∀ e ∈ log, e.1.Unhindered deadline e.2 := by
  induction h with
  | rest => exact fun _ he => absurd he List.not_mem_nil
  | next takes passes ih =>
    have reached := passes.le_later
    exact List.forall_mem_cons.2 ⟨takes.unhindered (Nat.lt_of_le_of_lt reached inTime)
      (hasBegun_mono reached running), ih inTime running⟩

/-- A bounded errand that has no result was aborted. -/
theorem Cycle.aborted_of_ends_within {α : Type} {limit : Nat} {errand : Errand α} {log : Cycle.Log}
    {abort : Abort} (h : (within limit errand).Ends log (.error abort)) :
    ∃ r : Request, ⟨.await r limit, (.error abort : Except Abort r.Answer)⟩ ∈ log := by
  induction errand generalizing log with
  | done a =>
    obtain ⟨-, h⟩ := Program.ends_done_iff.1 h
    cases h
  | ask r next ih =>
    obtain ⟨answer, rest, rfl, after⟩ := ends_within_ask_iff.1 h
    cases answer with
    | error e =>
      obtain ⟨-, same⟩ := Program.ends_done_iff.1 after
      cases same
      exact ⟨r, List.mem_cons_self⟩
    | ok x =>
      obtain ⟨r', hm⟩ := ih x after
      exact ⟨r', List.mem_cons_of_mem _ hm⟩

namespace CycleContext

variable {c : CycleContext} {log : Cycle.Log}

/-- An errand that may take as long as the cycle has a result, unless the cycle is hindered. -/
theorem ok_of_ends_withinDeadline {α : Type} {operation : String} {errand : Errand α}
    {r : Except ControlError α} (h : (c.withinDeadline operation errand).Ends log r)
    (free : ∀ e ∈ log, e.1.Unhindered c.deadline e.2) : ∃ a, r = .ok a := by
  obtain ⟨now, x, rest, rfl, bounded, rfl⟩ := ends_withinDeadline_iff.1 h
  cases x with
  | ok a => exact ⟨a, rfl⟩
  | error abort =>
    obtain ⟨q, hm⟩ := Cycle.aborted_of_ends_within bounded
    have free := free _ (List.mem_cons_of_mem _ hm)
    cases abort with
    | limit => exact absurd free (Nat.lt_irrefl _)
    | shutdown => exact free.elim

theorem eq_false_of_ends_isCancelled {cancelled : Bool} (h : c.isCancelled.Ends log cancelled)
    (free : ∀ e ∈ log, e.1.Unhindered c.deadline e.2) : cancelled = false := by
  obtain ⟨l₁, l₂, stopping, rfl, asked, after⟩ := Program.ends_bind_iff.1 h
  obtain ⟨now, looked, rfl⟩ := Program.ends_map_iff.1 after
  obtain rfl := Program.ends_put_iff.1 asked
  obtain rfl := Program.ends_put_iff.1 looked
  have running : stopping = false := free ⟨.shuttingDown, stopping⟩ List.mem_cons_self
  have inTime : now < c.deadline :=
    free ⟨.clock, now⟩ (List.mem_cons_of_mem _ List.mem_cons_self)
  rw [running, Bool.false_or]
  exact decide_eq_false (Nat.not_le_of_lt inTime)

end CycleContext

/-! ### What is heard -/

/-- Something waited for, and what came of it. -/
abbrev Heard : Type := (r : Request) × Except Abort r.Answer

/-- What the question waits for, with what comes of it; the limit of the wait plays no part. -/
def Query.heard? : (q : Query) → q.Answer → Option Heard
  | await r _, x => some ⟨r, x⟩
  | clock, _ | wallClock, _ | shuttingDown, _ | announce .., _ => none

/-- What a log has waited for, in order, with what came of it. -/
def Cycle.heard (log : Cycle.Log) : List Heard := log.filterMap fun e => e.1.heard? e.2

theorem Cycle.heard_append (log₁ log₂ : Cycle.Log) :
    heard (log₁ ++ log₂) = heard log₁ ++ heard log₂ :=
  List.filterMap_append

/-- After the same answers, the same request is answered alike. -/
def Alike (l₁ l₂ : List Heard) : Prop :=
  ∀ (l : List Heard) (r : Request) (x₁ x₂ : Except Abort r.Answer) (t₁ t₂ : List Heard),
    l₁ = l ++ ⟨r, x₁⟩ :: t₁ → l₂ = l ++ ⟨r, x₂⟩ :: t₂ → x₁ = x₂

namespace Alike

variable {l l₁ l₂ : List Heard}

theorem refl (l : List Heard) : Alike l l := by
  rintro l' r x₁ x₂ t₁ t₂ rfl same
  have same := List.cons.inj (List.append_cancel_left same)
  exact eq_of_heq (Sigma.mk.inj same.1).2

theorem head {r : Request} {x₁ x₂ : Except Abort r.Answer}
    (h : Alike (⟨r, x₁⟩ :: l₁) (⟨r, x₂⟩ :: l₂)) : x₁ = x₂ :=
  h [] r x₁ x₂ l₁ l₂ rfl rfl

theorem tail {e : Heard} (h : Alike (e :: l₁) (e :: l₂)) : Alike l₁ l₂ := by
  rintro l r x₁ x₂ t₁ t₂ rfl rfl
  exact h (e :: l) r x₁ x₂ t₁ t₂ rfl rfl

end Alike

/-! ### Twins -/

/-- Two programs that ask the same, but for the limits of their waits, and go on alike wherever the
answers to what they wait for are the same and unhindered. -/
inductive Cycle.Twins {α : Type} (d₁ d₂ : Nat) : Cycle α → Cycle α → Prop where
  | done (a : α) : Twins d₁ d₂ (.done a) (.done a)
  | await {r : Request} {limit₁ limit₂ : Nat} {next₁ next₂ : Except Abort r.Answer → Cycle α}
    (h : ∀ x : Except Abort r.Answer, (Query.await r limit₁).Unhindered d₁ x →
      (Query.await r limit₂).Unhindered d₂ x → Twins d₁ d₂ (next₁ x) (next₂ x)) :
    Twins d₁ d₂ (.ask (.await r limit₁) next₁) (.ask (.await r limit₂) next₂)
  /-- What the clock shows makes no difference but to the limits. -/
  | clock {next₁ next₂ : Nat → Cycle α} (h : ∀ n₁ n₂, Twins d₁ d₂ (next₁ n₁) (next₂ n₂)) :
    Twins d₁ d₂ (.ask Query.clock next₁) (.ask Query.clock next₂)
  | announce {key : FleetKey} {event : Event} {next₁ next₂ : Unit → Cycle α}
    (h : Twins d₁ d₂ (next₁ ()) (next₂ ())) :
    Twins d₁ d₂ (.ask (.announce key event) next₁) (.ask (.announce key event) next₂)

namespace Cycle.Twins

variable {α β ι : Type} {d₁ d₂ : Nat} {p₁ p₂ : Cycle α}

/-- Twins come to the same where what they hear is alike. -/
theorem eq (h : Twins d₁ d₂ p₁ p₂) {log₁ log₂ : Cycle.Log} {a₁ a₂ : α} (ends₁ : p₁.Ends log₁ a₁)
    (ends₂ : p₂.Ends log₂ a₂) (free₁ : ∀ e ∈ log₁, e.1.Unhindered d₁ e.2)
    (free₂ : ∀ e ∈ log₂, e.1.Unhindered d₂ e.2) (alike : Alike (heard log₁) (heard log₂)) :
    heard log₁ = heard log₂ ∧ told log₁ = told log₂ ∧ a₁ = a₂ := by
  induction h generalizing log₁ log₂ with
  | done a =>
    obtain ⟨rfl, rfl⟩ := Program.ends_done_iff.1 ends₁
    obtain ⟨rfl, rfl⟩ := Program.ends_done_iff.1 ends₂
    exact ⟨rfl, rfl, rfl⟩
  | @await r limit₁ limit₂ next₁ next₂ _ ih =>
    obtain ⟨x₁, rest₁, rfl, after₁⟩ := Program.ends_ask_iff.1 ends₁
    obtain ⟨x₂, rest₂, rfl, after₂⟩ := Program.ends_ask_iff.1 ends₂
    obtain ⟨hx₁, rest₁⟩ := List.forall_mem_cons.1 free₁
    obtain ⟨hx₂, rest₂⟩ := List.forall_mem_cons.1 free₂
    cases alike.head
    obtain ⟨same, tells, result⟩ := ih x₁ hx₁ hx₂ after₁ after₂ rest₁ rest₂ alike.tail
    exact ⟨congrArg (List.cons (⟨r, x₁⟩ : Heard)) same, tells, result⟩
  | clock _ ih =>
    obtain ⟨n₁, rest₁, rfl, after₁⟩ := Program.ends_ask_iff.1 ends₁
    obtain ⟨n₂, rest₂, rfl, after₂⟩ := Program.ends_ask_iff.1 ends₂
    have alike : Alike (heard rest₁) (heard rest₂) := alike
    obtain ⟨same, tells, result⟩ := ih n₁ n₂ after₁ after₂ (List.forall_mem_cons.1 free₁).2
      (List.forall_mem_cons.1 free₂).2 alike
    exact ⟨same, tells, result⟩
  | @announce key event _ _ _ ih =>
    obtain ⟨u₁, rest₁, rfl, after₁⟩ := Program.ends_ask_iff.1 ends₁
    obtain ⟨u₂, rest₂, rfl, after₂⟩ := Program.ends_ask_iff.1 ends₂
    have alike : Alike (heard rest₁) (heard rest₂) := alike
    obtain ⟨same, tells, result⟩ := ih after₁ after₂ (List.forall_mem_cons.1 free₁).2
      (List.forall_mem_cons.1 free₂).2 alike
    exact ⟨same, congrArg (List.cons (key, event)) tells, result⟩

theorem bind {f₁ f₂ : α → Cycle β} (h : Twins d₁ d₂ p₁ p₂)
    (hf : ∀ a, Twins d₁ d₂ (f₁ a) (f₂ a)) : Twins d₁ d₂ (p₁ >>= f₁) (p₂ >>= f₂) := by
  induction h with
  | done a => exact hf a
  | await _ ih => exact .await ih
  | clock _ ih => exact .clock ih
  | announce _ ih => exact .announce ih

theorem map {f : α → β} (h : Twins d₁ d₂ p₁ p₂) : Twins d₁ d₂ (f <$> p₁) (f <$> p₂) := by
  rw [map_eq_pure_bind, map_eq_pure_bind]
  exact h.bind fun a => .done (f a)

theorem foldlM {f₁ f₂ : α → ι → Cycle α} (l : List ι)
    (hf : ∀ a i, Twins d₁ d₂ (f₁ a i) (f₂ a i)) (a : α) :
    Twins d₁ d₂ (l.foldlM f₁ a) (l.foldlM f₂ a) := by
  induction l generalizing a with
  | nil => exact .done a
  | cons i l ih =>
    rw [List.foldlM_cons, List.foldlM_cons]
    exact (hf a i).bind ih

theorem announceAll (key : FleetKey) (events : List Event) :
    Twins d₁ d₂ (Cycle.announceAll key events) (Cycle.announceAll key events) := by
  induction events with
  | nil => exact .done ()
  | cons event events ih => exact .announce ih

end Cycle.Twins

/-! ### Bounds of two cycles -/

/-- An errand that is waited for equally long, unless the deadline comes first. -/
theorem Cycle.twins_race {α : Type} {d₁ d₂ : Nat} {operation : String} {n₁ n₂ l₁ l₂ : Nat}
    (errand : Errand α) (lasts : l₁ < d₁ → l₂ < d₂ → l₁ - n₁ = l₂ - n₂) :
    Twins d₁ d₂ (race operation n₁ l₁ errand) (race operation n₂ l₂ errand) := by
  rw [race_eq, race_eq, map_eq_pure_bind, map_eq_pure_bind]
  induction errand with
  | done a => exact .done _
  | ask r next ih =>
    rw [within, within, Program.ask_bind, Program.ask_bind]
    refine .await fun x free₁ free₂ => ?_
    rcases x with (_ | _) | x
    · have same : raced (α := α) operation n₁ l₁ (.error .limit) =
          raced operation n₂ l₂ (.error .limit) := by
        rw [raced, raced, lasts free₁ free₂]
      change Twins d₁ d₂ (.done (raced operation n₁ l₁ _)) (.done (raced operation n₂ l₂ _))
      rw [same]
      exact .done _
    · exact free₁.elim
    · exact ih x

namespace CycleContext

variable {α : Type} {c₁ c₂ : CycleContext} {operation : String} {millis : Nat}

theorem twins_withinDeadline {errand : Errand α} :
    Cycle.Twins c₁.deadline c₂.deadline (c₁.withinDeadline operation errand)
      (c₂.withinDeadline operation errand) :=
  .clock fun _ _ => Cycle.twins_race errand fun h => absurd h (Nat.lt_irrefl _)

theorem twins_bound {errand : Errand α} :
    Cycle.Twins c₁.deadline c₂.deadline (c₁.bound operation millis errand)
      (c₂.bound operation millis errand) := by
  refine .clock fun n₁ n₂ => Cycle.twins_race errand fun h₁ h₂ => ?_
  omega

theorem twins_run {errand : Errand (Except ControlError α)} :
    Cycle.Twins c₁.deadline c₂.deadline (c₁.run operation millis errand)
      (c₂.run operation millis errand) :=
  twins_bound.map

end CycleContext

end FleetMend
