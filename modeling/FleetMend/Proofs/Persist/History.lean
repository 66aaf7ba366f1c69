import FleetMend.Cycle.Persist

/-!
What happens to one fleet while several calls write patches to its status and the operator edits
its spec.

* `Deed`: a call's request to the store, or an edit.
* `replay`: the fleet after a history.  `replay_status` and `replay_spec` say what it consists of:
  the patches in the order of their writes, and the last edit.
* `replay_eq_of_version_eq`: a fleet that keeps its version has not been changed.
* `Lost`: so many attempts of a call met a change of the fleet between their read and their write.
-/

namespace FleetMend

variable {ι : Type}

/-- A call to write a patch: what it goes by, and what it writes. -/
structure Writer where
  policy : RetryPolicy
  patch : Patch

/-- What can happen to the fleet, or to a call on its way to it. -/
inductive Deed (ι : Type)
  /-- A call has read the fleet. -/
  | read (i : ι)
  /-- A call has written its status. -/
  | wrote (i : ι)
  /-- The write of a call was refused. -/
  | refused (i : ι)
  /-- The operator has put another spec in place. -/
  | edited (spec : FleetSpec)

namespace Deed

/-- The deed is a request of the call. -/
def IsBy (i : ι) : Deed ι → Prop
  | read j | wrote j | refused j => j = i
  | edited _ => False

/-- The deed gives the fleet another version. -/
def Changes : Deed ι → Prop
  | wrote _ | edited _ => True
  | read _ | refused _ => False

def writer? : Deed ι → Option ι
  | wrote i => some i
  | _ => none

def spec? : Deed ι → Option FleetSpec
  | edited spec => some spec
  | _ => none

/-- The fleet after the deed. -/
def apply (w : ι → Writer) (f : Fleet) : Deed ι → Fleet
  | wrote i => { f with status := (w i).patch.apply f.status, version := f.version + 1 }
  | edited spec => { f with spec, version := f.version + 1 }
  | read _ | refused _ => f

end Deed

/-- The calls that have written their status, in order. -/
def writers (h : List (Deed ι)) : List ι := h.filterMap Deed.writer?

/-- The specs that the operator has put in place, in order. -/
def specs (h : List (Deed ι)) : List FleetSpec := h.filterMap Deed.spec?

/-- A status with the patches of the calls applied, one after the other. -/
def applied (w : ι → Writer) (order : List ι) (status : FleetStatus) : FleetStatus :=
  order.foldl (fun s i => (w i).patch.apply s) status

/-- The fleet after a history. -/
def replay (w : ι → Writer) (h : List (Deed ι)) (f : Fleet) : Fleet := h.foldl (Deed.apply w) f

@[simp] theorem writers_nil : writers ([] : List (Deed ι)) = [] := rfl

@[simp] theorem writers_read (i : ι) (h : List (Deed ι)) : writers (.read i :: h) = writers h := rfl

@[simp] theorem writers_wrote (i : ι) (h : List (Deed ι)) :
    writers (.wrote i :: h) = i :: writers h := rfl

@[simp] theorem writers_refused (i : ι) (h : List (Deed ι)) :
    writers (.refused i :: h) = writers h := rfl

@[simp] theorem writers_edited (spec : FleetSpec) (h : List (Deed ι)) :
    writers (.edited spec :: h) = writers h := rfl

@[simp] theorem writers_append (h t : List (Deed ι)) :
    writers (h ++ t) = writers h ++ writers t := List.filterMap_append

theorem replay_append (w : ι → Writer) (h t : List (Deed ι)) (f : Fleet) :
    replay w (h ++ t) f = replay w t (replay w h f) := List.foldl_append

/-- The stored status is the first one with the patches of all writes, whole and in order. -/
theorem replay_status (w : ι → Writer) (h : List (Deed ι)) (f : Fleet) :
    (replay w h f).status = applied w (writers h) f.status := by
  induction h generalizing f with
  | nil => rfl
  | cons d h ih =>
    refine (ih (d.apply w f)).trans ?_
    cases d <;> rfl

/-- The stored spec is that of the last edit, or the first one. -/
theorem replay_spec (w : ι → Writer) (h : List (Deed ι)) (f : Fleet) :
    (replay w h f).spec = (specs h).getLastD f.spec := by
  induction h generalizing f with
  | nil => rfl
  | cons d h ih =>
    refine (ih (d.apply w f)).trans ?_
    cases d with
    | edited spec => exact List.getLastD_cons.symm
    | read | wrote | refused => rfl

theorem version_le_replay (w : ι → Writer) (h : List (Deed ι)) (f : Fleet) :
    f.version ≤ (replay w h f).version := by
  induction h generalizing f with
  | nil => exact Nat.le_refl _
  | cons d h ih =>
    refine Nat.le_trans ?_ (ih (d.apply w f))
    cases d <;> simp [Deed.apply]

/-- A fleet that keeps its version through a history has not been changed. -/
theorem replay_eq_of_version_eq {w : ι → Writer} {h : List (Deed ι)} {f : Fleet}
    (hv : (replay w h f).version = f.version) : replay w h f = f := by
  induction h generalizing f with
  | nil => rfl
  | cons d h ih =>
    have hle := version_le_replay w h (d.apply w f)
    cases d with
    | read | refused => exact ih hv
    | wrote | edited =>
      change (replay w h _).version = _ at hv
      simp only [Deed.apply] at hle hv
      omega

/-- A fleet that gets another version has been changed. -/
theorem exists_changes_of_version_ne {w : ι → Writer} {h : List (Deed ι)} {f : Fleet}
    (hv : (replay w h f).version ≠ f.version) : ∃ d ∈ h, d.Changes := by
  induction h generalizing f with
  | nil => exact absurd rfl hv
  | cons d h ih =>
    cases d with
    | wrote | edited => exact ⟨_, List.mem_cons_self, trivial⟩
    | read | refused =>
      obtain ⟨d, hd, hc⟩ := ih hv
      exact ⟨d, List.mem_cons_of_mem _ hd, hc⟩

/-! ### Attempts -/

/-- The call makes no request to the store. -/
def Quiet (i : ι) (h : List (Deed ι)) : Prop := ∀ d ∈ h, ¬ d.IsBy i

theorem Quiet.nil (i : ι) : Quiet i [] := fun _ hd => absurd hd List.not_mem_nil

theorem Quiet.append {i : ι} {h t : List (Deed ι)} (hh : Quiet i h) (ht : Quiet i t) :
    Quiet i (h ++ t) := fun d hd => (List.mem_append.1 hd).elim (hh d) (ht d)

theorem Quiet.not_mem_writers {i : ι} {h : List (Deed ι)} (hq : Quiet i h) : i ∉ writers h := by
  intro hi
  obtain ⟨d, hd, he⟩ := List.mem_filterMap.1 hi
  cases d with
  | wrote j => exact hq _ hd (Option.some.inj he)
  | read | refused | edited => cases he

/-- The requests of the call to the store are so many attempts, and every one of them was lost: the
call read the fleet, the fleet was changed, and the write of the call was refused. -/
inductive Lost (i : ι) : Nat → List (Deed ι) → Prop where
  | none {h : List (Deed ι)} (hq : Quiet i h) : Lost i 0 h
  | more {n : Nat} {before between after : List (Deed ι)} (hb : Lost i n before)
      (hq : Quiet i between) (hc : ∃ d ∈ between, d.Changes) (ha : Quiet i after) :
      Lost i (n + 1) (before ++ .read i :: between ++ .refused i :: after)

namespace Lost

variable {i : ι} {n : Nat} {h t : List (Deed ι)}

theorem append (hl : Lost i n h) (ht : Quiet i t) : Lost i n (h ++ t) := by
  cases hl with
  | none hq => exact .none (hq.append ht)
  | more hb hq hc ha =>
    rw [List.append_assoc, List.cons_append]
    exact .more hb hq hc (ha.append ht)

theorem not_mem_writers (hl : Lost i n h) : i ∉ writers h := by
  induction hl with
  | none hq => exact hq.not_mem_writers
  | more _ hq _ ha ih =>
    have hb := hq.not_mem_writers
    have ha := ha.not_mem_writers
    simp [ih, hb, ha]

end Lost

end FleetMend
