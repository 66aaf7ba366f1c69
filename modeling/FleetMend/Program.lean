/-!
Programs that put questions to the outside and go on with the answers.

* `Program.run`: what becomes of a program where a function with a state gives the answers.
* `Program.run_bind`: one program after another runs like the one and then the other.
-/

namespace FleetMend

/-- A result, or a question with what to do after each of its answers. -/
inductive Program (Q : Type) (A : Q → Type) (α : Type) : Type
  | done (a : α)
  | ask (q : Q) (next : A q → Program Q A α)

namespace Program

variable {Q : Type} {A : Q → Type} {α β γ σ : Type}

/-- One program, and after its result another. -/
def bind (p : Program Q A α) (f : α → Program Q A β) : Program Q A β :=
  match p with
  | done a => f a
  | ask q next => ask q fun a => (next a).bind f

/-- A single question. -/
def put (q : Q) : Program Q A (A q) := ask q done

instance : Monad (Program Q A) where
  pure := done
  bind := bind

@[simp] theorem pure_eq (a : α) : (pure a : Program Q A α) = done a := rfl

@[simp] theorem done_bind (a : α) (f : α → Program Q A β) : (done a >>= f) = f a := rfl

@[simp] theorem ask_bind (q : Q) (next : A q → Program Q A α) (f : α → Program Q A β) :
    (ask q next >>= f) = ask q fun a => next a >>= f := rfl

theorem bind_done (p : Program Q A α) : (p >>= done) = p := by
  induction p with
  | done a => rfl
  | ask q next ih => exact congrArg (ask q) (funext ih)

theorem bind_assoc (p : Program Q A α) (f : α → Program Q A β) (g : β → Program Q A γ) :
    (p >>= f >>= g) = (p >>= fun a => f a >>= g) := by
  induction p with
  | done a => rfl
  | ask q next ih => exact congrArg (ask q) (funext ih)

instance : LawfulMonad (Program Q A) :=
  LawfulMonad.mk' (Program Q A) bind_done (fun _ _ => rfl) bind_assoc

/-- Gives every question the answer of `answer`, which may change a state. -/
def run (answer : (q : Q) → σ → A q × σ) : Program Q A α → σ → α × σ
  | done a, s => (a, s)
  | ask q next, s => (next (answer q s).1).run answer (answer q s).2

variable (answer : (q : Q) → σ → A q × σ)

@[simp] theorem run_done (a : α) (s : σ) : (done a : Program Q A α).run answer s = (a, s) := rfl

@[simp] theorem run_ask (q : Q) (next : A q → Program Q A α) (s : σ) :
    (ask q next).run answer s = (next (answer q s).1).run answer (answer q s).2 := rfl

@[simp] theorem run_put (q : Q) (s : σ) :
    (put q : Program Q A (A q)).run answer s = answer q s := rfl

theorem run_bind (p : Program Q A α) (f : α → Program Q A β) (s : σ) :
    (p >>= f).run answer s = (f (p.run answer s).1).run answer (p.run answer s).2 := by
  induction p generalizing s with
  | done a => rfl
  | ask q next ih => exact ih _ _

end Program

end FleetMend
