import FleetMend.Program

/-!
The dialogue of a program with the outside: its questions in order, each with the answer it got.

* `Program.Ends`: with the answers of a log, a program ends in a result.
* `Program.ends_bind_iff`: the log of one program and then another is the log of the one, then the
  log of the other.
* `Program.Keeps`: every question that a program can ask has one property, and every result that it
  can end in another.  `Program.Keeps.of_ends` reads the two off a log.
* `Program.transcript`, `Program.ends_run`: a program that is run has a dialogue with whoever answers.
-/

namespace FleetMend

namespace Program

variable {Q : Type} {A : Q → Type} {α β γ σ : Type}

/-- Questions, each with its answer. -/
abbrev Log (Q : Type) (A : Q → Type) : Type := List ((q : Q) × A q)

/-- With the answers of the log, the program ends in the result, and asks no more. -/
inductive Ends : Program Q A α → Log Q A → α → Prop where
  | done (a : α) : Ends (.done a) [] a
  | ask {q : Q} {next : A q → Program Q A α} {log : Log Q A} {a : α} (x : A q)
      (h : Ends (next x) log a) : Ends (.ask q next) (⟨q, x⟩ :: log) a

/-! ### Logs -/

@[simp] theorem ends_done_iff {a b : α} {log : Log Q A} :
    (done a : Program Q A α).Ends log b ↔ log = [] ∧ b = a := by
  constructor
  · rintro ⟨⟩
    exact ⟨rfl, rfl⟩
  · rintro ⟨rfl, rfl⟩
    exact .done _

theorem ends_ask_iff {q : Q} {next : A q → Program Q A α} {log : Log Q A} {a : α} :
    (ask q next).Ends log a ↔ ∃ x rest, log = ⟨q, x⟩ :: rest ∧ (next x).Ends rest a := by
  constructor
  · rintro (_ | ⟨x, h⟩)
    exact ⟨x, _, rfl, h⟩
  · rintro ⟨x, rest, rfl, h⟩
    exact .ask x h

theorem ends_put_iff {q : Q} {log : Log Q A} {a : A q} :
    (put q : Program Q A (A q)).Ends log a ↔ log = [⟨q, a⟩] := by
  rw [put, ends_ask_iff]
  constructor
  · rintro ⟨x, rest, rfl, h⟩
    obtain ⟨rfl, rfl⟩ := ends_done_iff.1 h
    rfl
  · rintro rfl
    exact ⟨a, [], rfl, .done a⟩

theorem Ends.bind {p : Program Q A α} {f : α → Program Q A β} {l₁ l₂ : Log Q A} {a : α} {b : β}
    (h₁ : p.Ends l₁ a) (h₂ : (f a).Ends l₂ b) : (p >>= f).Ends (l₁ ++ l₂) b := by
  induction h₁ with
  | done a => exact h₂
  | ask x _ ih => exact .ask x (ih h₂)

/-- The log of a program and what follows it splits where the program ends. -/
theorem ends_bind_iff {p : Program Q A α} {f : α → Program Q A β} {log : Log Q A} {b : β} :
    (p >>= f).Ends log b ↔
      ∃ l₁ l₂ a, log = l₁ ++ l₂ ∧ p.Ends l₁ a ∧ (f a).Ends l₂ b := by
  constructor
  · intro h
    induction p generalizing log with
    | done a => exact ⟨[], log, a, rfl, .done a, h⟩
    | ask q next ih =>
      rw [ask_bind, ends_ask_iff] at h
      obtain ⟨x, rest, rfl, h⟩ := h
      obtain ⟨l₁, l₂, a, rfl, h₁, h₂⟩ := ih x h
      exact ⟨⟨q, x⟩ :: l₁, l₂, a, rfl, .ask x h₁, h₂⟩
  · rintro ⟨l₁, l₂, a, rfl, h₁, h₂⟩
    exact h₁.bind h₂

theorem ends_map_iff {p : Program Q A α} {f : α → β} {log : Log Q A} {b : β} :
    (f <$> p).Ends log b ↔ ∃ a, p.Ends log a ∧ b = f a := by
  rw [map_eq_pure_bind, ends_bind_iff]
  constructor
  · rintro ⟨l₁, l₂, a, rfl, h₁, h₂⟩
    obtain ⟨rfl, rfl⟩ := ends_done_iff.1 h₂
    exact ⟨a, by rwa [List.append_nil], rfl⟩
  · rintro ⟨a, h, rfl⟩
    exact ⟨log, [], a, (List.append_nil log).symm, h, .done _⟩

/-- A single question, whose answer is all that counts. -/
theorem ends_map_put_iff {q : Q} {f : A q → α} {log : Log Q A} {a : α} :
    (f <$> (put q : Program Q A (A q))).Ends log a ↔ ∃ x, log = [⟨q, x⟩] ∧ a = f x := by
  rw [ends_map_iff]
  exact exists_congr fun x => and_congr_left fun _ => ends_put_iff

/-- The dialogue of a run. -/
def transcript (answer : (q : Q) → σ → A q × σ) : Program Q A α → σ → Log Q A
  | done _, _ => []
  | ask q next, s =>
    ⟨q, (answer q s).1⟩ :: (next (answer q s).1).transcript answer (answer q s).2

/-- A run is a dialogue. -/
theorem ends_run (answer : (q : Q) → σ → A q × σ) (p : Program Q A α) (s : σ) :
    p.Ends (p.transcript answer s) (p.run answer s).1 := by
  induction p generalizing s with
  | done a => exact .done a
  | ask q next ih => exact .ask _ (ih _ _)

/-! ### What holds in every dialogue -/

/-- Whatever the answers, every question asked is in `P` and the result is in `R`. -/
def Keeps (P : Q → Prop) (R : α → Prop) : Program Q A α → Prop
  | done a => R a
  | ask q next => P q ∧ ∀ x, (next x).Keeps P R

variable {P P' : Q → Prop}

@[simp] theorem keeps_done {R : α → Prop} {a : α} :
    (done a : Program Q A α).Keeps P R ↔ R a := Iff.rfl

@[simp] theorem keeps_ask {R : α → Prop} {q : Q} {next : A q → Program Q A α} :
    (ask q next).Keeps P R ↔ P q ∧ ∀ x, (next x).Keeps P R := Iff.rfl

theorem Keeps.of_forall {R : α → Prop} (hP : ∀ q, P q) (hR : ∀ a, R a) (p : Program Q A α) :
    p.Keeps P R := by
  induction p with
  | done a => exact hR a
  | ask q next ih => exact ⟨hP q, ih⟩

theorem Keeps.put {q : Q} (h : P q) : (Program.put q : Program Q A (A q)).Keeps P fun _ => True :=
  ⟨h, fun _ => trivial⟩

theorem Keeps.bind {R : α → Prop} {S : β → Prop} {p : Program Q A α} {f : α → Program Q A β}
    (h : p.Keeps P R) (hf : ∀ a, R a → (f a).Keeps P S) : (p >>= f).Keeps P S := by
  induction p with
  | done a => exact hf a h
  | ask q next ih => exact ⟨h.1, fun x => ih x (h.2 x)⟩

theorem Keeps.map {R : β → Prop} {p : Program Q A α} {f : α → β}
    (h : p.Keeps P fun a => R (f a)) : (f <$> p).Keeps P R := by
  rw [map_eq_pure_bind]
  exact h.bind fun _ ha => ha

theorem Keeps.mono {R S : α → Prop} {p : Program Q A α} (h : p.Keeps P R)
    (hP : ∀ q, P q → P' q) (hR : ∀ a, R a → S a) : p.Keeps P' S := by
  induction p with
  | done a => exact hR a h
  | ask q next ih => exact ⟨hP q h.1, fun x => ih x (h.2 x)⟩

/-- What two properties of a program say of its questions and results holds of them at once. -/
theorem Keeps.and {R S : α → Prop} {p : Program Q A α} (h : p.Keeps P R) (h' : p.Keeps P' S) :
    p.Keeps P fun a => R a ∧ S a := by
  induction p with
  | done a => exact ⟨h, h'⟩
  | ask q next ih => exact ⟨h.1, fun x => ih x (h.2 x) (h'.2 x)⟩

theorem Keeps.foldlM {ι : Type} {R : α → Prop} {f : α → ι → Program Q A α} (l : List ι)
    (hf : ∀ a i, R a → (f a i).Keeps P R) {a : α} (ha : R a) : (l.foldlM f a).Keeps P R := by
  induction l generalizing a with
  | nil => exact ha
  | cons i l ih =>
    rw [List.foldlM_cons]
    exact (hf a i ha).bind fun b hb => ih hb

theorem Keeps.of_ends {R : α → Prop} {p : Program Q A α} {log : Log Q A} {a : α}
    (hp : p.Keeps P R) (h : p.Ends log a) : (∀ e ∈ log, P e.1) ∧ R a := by
  induction h with
  | done a => exact ⟨fun _ he => absurd he List.not_mem_nil, hp⟩
  | ask x _ ih =>
    obtain ⟨hl, hr⟩ := ih (hp.2 x)
    refine ⟨fun e he => ?_, hr⟩
    rcases List.mem_cons.1 he with rfl | he
    · exact hp.1
    · exact hl e he

end Program

end FleetMend
