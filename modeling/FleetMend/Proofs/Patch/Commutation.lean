import FleetMend.Proofs.Patch.LastWrite

/-!
Changes that aim at different parts of a status, and the order in which they are made.

* `Target`: what a change aims at, which may be several locations.
* `StatusOp.content_of_target_ne`: a change leaves everything else as it is.
  `StatusOp.content_congr`: what it leaves at a location depends on what stands there alone.
* `StatusOp.apply_comm`, `StatusOp.answer_of_target_ne`: so two changes with different targets may
  be made in either order, and answer the same.
* `Patch.Apart`: no change of the one patch aims at what a change of the other aims at.
* `Patch.apply_flatten_perm`, `Patch.answers_flatten`: patches that are apart may be applied in any
  order, and each answers as it would alone.
-/

namespace FleetMend

/-! ### Targets -/

/-- What a change aims at. -/
inductive Target
  | syncInfo
  | resize (volume : String)
  | failures (pod : String)
  | pruning
deriving DecidableEq

/-- The target of the changes that write to the location. -/
def Location.target : Location → Target
  | syncInfo => .syncInfo
  | resize volume => .resize volume
  | failures pod => .failures pod
  | begun | phase | candidate _ | substitution _ => .pruning

namespace StatusOp

def target : StatusOp → Target
  | setSyncInfo _ => .syncInfo
  | requestResize volume _ => .resize volume
  | recordFailure pod .. => .failures pod
  | setPhase _ | addCandidate .. | clearSubstitution _ | clearCandidates => .pruning

variable {a b op : StatusOp} {s t : FleetStatus} {l : Location}

theorem writes_of_target_ne (h : l.target ≠ op.target) : op.writes l = none := by
  cases op with
  | setSyncInfo info =>
    cases l with
    | syncInfo => exact absurd rfl h
    | resize | failures | begun | phase | candidate | substitution => rfl
  | requestResize volume request =>
    cases l with
    | resize v => exact if_neg fun same => h (congrArg Target.resize same)
    | syncInfo | failures | begun | phase | candidate | substitution => rfl
  | recordFailure pod time tracker => cases l <;> rfl
  | setPhase | addCandidate | clearSubstitution | clearCandidates =>
    cases l with
    | begun | phase | candidate | substitution => exact absurd rfl h
    | syncInfo | resize | failures => rfl

/-! ### One change -/

/-- A change leaves everything outside its own target as it is. -/
theorem content_of_target_ne (h : l.target ≠ op.target) :
    l.content (op.apply s).1 = l.content s := by
  cases op with
  | recordFailure pod time tracker =>
    cases l with
    | failures name =>
      have other : pod ≠ name := fun same => h (congrArg Target.failures same.symm)
      exact find?_failures_apply fun same => other (Option.some.inj same)
    | syncInfo | resize | begun | phase | candidate | substitution => rfl
  | setSyncInfo | requestResize | setPhase | addCandidate | clearSubstitution
  | clearCandidates => rw [content_apply rfl, writes_of_target_ne h, Option.getD_none]

/-- What a change leaves at a location depends on what stands there alone. -/
theorem content_congr (h : l.content s = l.content t) :
    l.content (op.apply s).1 = l.content (op.apply t).1 := by
  cases op with
  | recordFailure pod time tracker =>
    cases l with
    | failures name =>
      have log : s.failureLog name = t.failureLog name := congrArg (·.getD {}) h
      simp only [Location.content, find?_failures_recordFailure]
      split
      · next same => rw [← same, log]
      · exact h
    | syncInfo | resize | begun | phase | candidate | substitution => exact h
  | setSyncInfo | requestResize | setPhase | addCandidate | clearSubstitution
  | clearCandidates => rw [content_apply rfl, content_apply rfl, h]

/-- Two changes with different targets may be made in either order. -/
theorem apply_comm (h : a.target ≠ b.target) :
    (b.apply (a.apply s).1).1 = (a.apply (b.apply s).1).1 := by
  refine Location.ext fun l => ?_
  -- One of the two leaves the location, so the other finds there what it finds without it.
  by_cases mine : l.target = a.target
  · have other : l.target ≠ b.target := mine ▸ h
    calc l.content (b.apply (a.apply s).1).1 = l.content (a.apply s).1 :=
          content_of_target_ne other
      _ = l.content (a.apply (b.apply s).1).1 := content_congr (content_of_target_ne other).symm
  · calc l.content (b.apply (a.apply s).1).1 = l.content (b.apply s).1 :=
          content_congr (content_of_target_ne mine)
      _ = l.content (a.apply (b.apply s).1).1 := (content_of_target_ne mine).symm

/-- A change answers the same before a change with another target and after it. -/
theorem answer_of_target_ne (h : a.target ≠ b.target) :
    (b.apply (a.apply s).1).2 = (b.apply s).2 := by
  cases b with
  | recordFailure pod time tracker =>
    have kept : (a.apply s).1.failureLog pod = s.failureLog pod :=
      congrArg (·.getD {}) (content_of_target_ne (l := .failures pod) h.symm)
    rw [exceeded_recordFailure, exceeded_recordFailure, kept]
  | setSyncInfo | requestResize | setPhase | addCandidate | clearSubstitution
  | clearCandidates => rfl

end StatusOp

/-! ### Patches -/

namespace Patch

/-- No change of the one patch aims at what a change of the other aims at. -/
def Apart (p q : Patch) : Prop := ∀ a ∈ p, ∀ b ∈ q, a.target ≠ b.target

variable {a : StatusOp} {p q : Patch} {ps qs : List Patch} {s : FleetStatus}

theorem Apart.symm (h : p.Apart q) : q.Apart p := fun b hb a ha => (h a ha b hb).symm

theorem Apart.flatten (h : ∀ q ∈ qs, p.Apart q) : p.Apart qs.flatten := by
  intro a ha b hb
  obtain ⟨q, hq, hb⟩ := List.mem_flatten.1 hb
  exact h q hq a ha b hb

/-- A single change may be made after a patch that is apart from it. -/
theorem apply_past (h : ∀ b ∈ p, a.target ≠ b.target) :
    p.apply (a.apply s).1 = (a.apply (p.apply s)).1 := by
  induction p generalizing s with
  | nil => rfl
  | cons b p ih =>
    obtain ⟨hb, hp⟩ := List.forall_mem_cons.1 h
    rw [apply_cons, apply_cons, StatusOp.apply_comm hb, ih hp]

/-- Two patches that are apart may be applied in either order. -/
theorem apply_comm (h : p.Apart q) : q.apply (p.apply s) = p.apply (q.apply s) := by
  induction p generalizing s with
  | nil => rfl
  | cons a p ih =>
    obtain ⟨ha, hp⟩ := List.forall_mem_cons.1 h
    rw [apply_cons, apply_cons, ih hp, apply_past ha]

theorem answers_past (h : ∀ b ∈ p, a.target ≠ b.target) :
    p.answers (a.apply s).1 = p.answers s := by
  induction p generalizing s with
  | nil => rfl
  | cons b p ih =>
    obtain ⟨hb, hp⟩ := List.forall_mem_cons.1 h
    rw [answers, answers, StatusOp.answer_of_target_ne hb, StatusOp.apply_comm hb, ih hp]

/-- A patch answers the same before a patch that is apart from it and after it. -/
theorem answers_of_apart (h : p.Apart q) : q.answers (p.apply s) = q.answers s := by
  induction p generalizing s with
  | nil => rfl
  | cons a p ih =>
    obtain ⟨ha, hp⟩ := List.forall_mem_cons.1 h
    rw [apply_cons, ih hp, answers_past ha]

/-- Patches that are apart from one another may be applied in any order. -/
theorem apply_flatten_perm (perm : ps.Perm qs) (apart : ps.Pairwise Apart) :
    apply ps.flatten s = apply qs.flatten s := by
  induction perm generalizing s with
  | nil => rfl
  | cons p _ ih =>
    rw [List.flatten_cons, List.flatten_cons, apply_append, apply_append,
      ih (List.pairwise_cons.1 apart).2]
  | swap p q rest =>
    have both : q.Apart p := (List.pairwise_cons.1 apart).1 p List.mem_cons_self
    simp only [List.flatten_cons, apply_append, apply_comm both]
  | trans first _ ih ih' =>
    rw [ih apart, ih' (apart.perm first Apart.symm)]

/-- Of patches that are apart from one another each answers as it would alone. -/
theorem answers_flatten (apart : ps.Pairwise Apart) :
    answers ps.flatten s = (ps.map (·.answers s)).flatten := by
  induction ps with
  | nil => rfl
  | cons p ps ih =>
    obtain ⟨first, others⟩ := List.pairwise_cons.1 apart
    rw [List.flatten_cons, answers_append, answers_of_apart (Apart.flatten first), ih others]
    rfl

end Patch

end FleetMend
