import FleetMend.Scheduler.Gate
import Mathlib.Data.List.Nodup
import Mathlib.Logic.Function.Basic

/-!
Calls before the gate, each of which gets in line for the lock of its fleet, then for a permit, and
gives up both.

* `Standing`: how far a call has got.
* `Gate.Fits`: the lines hold a call where it stands.  `Gate.Keeps`: so they do each call, and once.
  `Gate.Keeps.enter`, `Gate.Keeps.lock`, `Gate.Keeps.apply`, `Gate.Keeps.permit`, `Gate.Keeps.leave`:
  each move of a call keeps this so.
* `Gate.Keeps.exclusive`, `Gate.Keeps.length_le_room`: with both, a call is the only one of its
  fleet, and one of no more than there is room for.
* `Gate.Keeps.moves_on`: while no call has both, one that waits can go on.
-/

namespace FleetMend

/-- How far a call has got before the gate. -/
inductive Standing
  | outside
  /-- In line for the lock of a fleet. -/
  | inLine (key : FleetKey)
  /-- Has the lock. -/
  | locked (key : FleetKey)
  /-- Has the lock, and is in line for a permit. -/
  | applied (key : FleetKey)
  /-- Has the lock and a permit. -/
  | admitted (key : FleetKey)
deriving DecidableEq

namespace Standing

/-- The fleet in whose line the call stands. -/
def line? : Standing → Option FleetKey
  | outside => none
  | inLine key | locked key | applied key | admitted key => some key

/-- The fleet whose lock the call has taken. -/
def lock? : Standing → Option FleetKey
  | outside | inLine _ => none
  | locked key | applied key | admitted key => some key

/-- The call is in the line for the permits. -/
def hasApplied : Standing → Bool
  | outside | inLine _ | locked _ => false
  | applied _ | admitted _ => true

end Standing

namespace Gate

variable {g : Gate} {st : Nat → Standing} {key : FleetKey} {i j : Nat}

/-- The lines hold a call where it stands; if it has taken a lock or a permit, it has it. -/
structure Fits (g : Gate) (i : Nat) (s : Standing) : Prop where
  mem_line : ∀ key, i ∈ g.line key ↔ s.line? = some key
  hasLock : ∀ key, s.lock? = some key → g.hasLock key i
  mem_permits : i ∈ g.permits ↔ s.hasApplied
  hasPermit : ∀ key, s = .admitted key → g.hasPermit i

/-- The lines hold each call once, and where it stands. -/
structure Keeps (g : Gate) (st : Nat → Standing) : Prop where
  nodup_line : ∀ key, (g.line key).Nodup
  nodup_permits : g.permits.Nodup
  fits : ∀ i, g.Fits i (st i)

theorem hasLock_iff : g.hasLock key i ↔ (g.line key).head? = some i := by
  simp [Gate.hasLock]

theorem hasPermit_iff : g.hasPermit i ↔ i ∈ g.permits.take g.room := by
  simp [Gate.hasPermit, admitted]

theorem eq_of_hasLock (hi : g.hasLock key i) (hj : g.hasLock key j) : i = j :=
  Option.some.inj ((hasLock_iff.1 hi).symm.trans (hasLock_iff.1 hj))

/-- Who is among the first of a line stays among them when another leaves it. -/
theorem mem_take_erase {l : List Nat} {n : Nat} (hj : j ∈ l.take n) (hne : j ≠ i) :
    j ∈ (l.erase i).take n := by
  induction l generalizing n with
  | nil => simp at hj
  | cons a l ih =>
    cases n with
    | zero => simp at hj
    | succ n =>
      rw [List.take_succ_cons, List.mem_cons] at hj
      by_cases ha : a = i
      · rw [ha, List.erase_cons_head]
        exact List.take_subset_take_left l n.le_succ (hj.resolve_left (ha ▸ hne))
      · rw [List.erase_cons_tail (by simpa using ha), List.take_succ_cons, List.mem_cons]
        exact hj.imp_right ih

/-- Who has a permit keeps it when another gets in line. -/
theorem hasPermit_apply (h : g.hasPermit j) (i : Nat) : (g.apply i).hasPermit j := by
  rw [hasPermit_iff] at h ⊢
  show j ∈ (g.permits ++ [i]).take g.room
  rw [List.take_append]
  exact List.mem_append_left _ h

/-! ### One call moves -/

namespace Fits

variable {s : Standing}

/-- A call that goes on without a change of the lines. -/
theorem move {s' : Standing} (h : g.Fits i s) (line : s'.line? = s.line?)
    (lock : ∀ key, s'.lock? = some key → g.hasLock key i) (applied : s'.hasApplied = s.hasApplied)
    (turn : ∀ key, s' = .admitted key → g.hasPermit i) : g.Fits i s' where
  mem_line key := by rw [h.mem_line, line]
  hasLock := lock
  mem_permits := by rw [h.mem_permits, applied]
  hasPermit := turn

theorem enter_self (h : g.Fits i .outside) (key : FleetKey) : (g.enter key i).Fits i (.inLine key) where
  mem_line k := by
    have before := h.mem_line k
    rw [line_enter]
    by_cases hk : k = key
    · simp [hk, Standing.line?]
    · rw [if_neg hk, before]
      simp [Standing.line?, Ne.symm hk]
  hasLock _ hk := by cases hk
  mem_permits := h.mem_permits
  hasPermit _ hk := by cases hk

theorem enter (h : g.Fits j s) (hne : j ≠ i) (key : FleetKey) : (g.enter key i).Fits j s where
  mem_line k := by
    rw [line_enter, ← h.mem_line]
    split
    · next hk => simp [hk, hne]
    · rfl
  hasLock k hk := by
    have head := hasLock_iff.1 (h.hasLock k hk)
    rw [hasLock_iff, line_enter]
    split
    · next he =>
      subst he
      rw [List.head?_append, head]
      rfl
    · exact head
  mem_permits := h.mem_permits
  hasPermit := h.hasPermit

theorem apply_self (h : g.Fits i (.locked key)) : (g.apply i).Fits i (.applied key) where
  mem_line := h.mem_line
  hasLock := h.hasLock
  mem_permits := by
    show i ∈ g.permits ++ [i] ↔ _
    simp [Standing.hasApplied]
  hasPermit _ hk := by cases hk

theorem apply (h : g.Fits j s) (hne : j ≠ i) : (g.apply i).Fits j s where
  mem_line := h.mem_line
  hasLock := h.hasLock
  mem_permits := by
    show j ∈ g.permits ++ [i] ↔ _
    rw [← h.mem_permits]
    simp [hne]
  hasPermit k hk := hasPermit_apply (h.hasPermit k hk) i

theorem leave (h : g.Fits j s) (hne : j ≠ i) (own : g.hasLock key i) : (g.leave key i).Fits j s where
  mem_line k := by
    rw [line_leave, ← h.mem_line]
    split
    · next hk => rw [List.mem_erase_of_ne hne, hk]
    · rfl
  hasLock k hk := by
    have before := h.hasLock k hk
    rw [hasLock_iff, line_leave]
    split
    · next he =>
      -- The lock of this fleet is the leaving call's, so that no other has taken it.
      exact absurd (eq_of_hasLock (he ▸ before) own) hne
    · exact hasLock_iff.1 before
  mem_permits := by
    show j ∈ g.permits.erase i ↔ _
    rw [List.mem_erase_of_ne hne, h.mem_permits]
  hasPermit k hk := hasPermit_iff.2 (mem_take_erase (hasPermit_iff.1 (h.hasPermit k hk)) hne)

end Fits

/-! ### Moves -/

theorem keeps_empty {room : Nat} : Keeps { room } fun _ => .outside where
  nodup_line _ := List.nodup_nil
  nodup_permits := List.nodup_nil
  fits _ :=
    { mem_line := fun _ => by simp [line, Standing.line?]
      hasLock := nofun
      mem_permits := by simp [Standing.hasApplied]
      hasPermit := nofun }

namespace Keeps

open Function (update update_self update_of_ne)

theorem fits_update {g' : Gate} {s : Standing} (self : g'.Fits i s)
    (others : ∀ j ≠ i, g'.Fits j (st j)) (j : Nat) : g'.Fits j (update st i s j) := by
  by_cases hj : j = i
  · rw [hj, update_self]
    exact self
  · rw [update_of_ne hj]
    exact others j hj

theorem lock (h : g.Keeps st) (hi : st i = .inLine key) (turn : g.hasLock key i) :
    g.Keeps (update st i (.locked key)) where
  nodup_line := h.nodup_line
  nodup_permits := h.nodup_permits
  fits := by
    refine fits_update ?_ fun j _ => h.fits j
    refine (hi ▸ h.fits i).move rfl ?_ rfl nofun
    intro k hk
    cases hk
    exact turn

theorem permit (h : g.Keeps st) (hi : st i = .applied key) (turn : g.hasPermit i) :
    g.Keeps (update st i (.admitted key)) where
  nodup_line := h.nodup_line
  nodup_permits := h.nodup_permits
  fits := by
    have before : g.Fits i (.applied key) := hi ▸ h.fits i
    exact fits_update (before.move rfl before.hasLock rfl fun _ _ => turn) fun j _ => h.fits j

theorem enter (h : g.Keeps st) (hi : st i = .outside) :
    (g.enter key i).Keeps (update st i (.inLine key)) where
  nodup_line k := by
    rw [line_enter]
    split
    · have out : i ∉ g.line key := by
        rw [(h.fits i).mem_line, hi]
        nofun
      exact List.concat_eq_append ▸ (h.nodup_line key).concat out
    · exact h.nodup_line k
  nodup_permits := h.nodup_permits
  fits := fits_update ((hi ▸ h.fits i : g.Fits i .outside).enter_self key)
    fun j hj => (h.fits j).enter hj key

theorem apply (h : g.Keeps st) (hi : st i = .locked key) :
    (g.apply i).Keeps (update st i (.applied key)) where
  nodup_line := h.nodup_line
  nodup_permits := by
    have out : i ∉ g.permits := by
      rw [(h.fits i).mem_permits, hi]
      nofun
    show (g.permits ++ [i]).Nodup
    exact List.concat_eq_append ▸ h.nodup_permits.concat out
  fits := fits_update (hi ▸ h.fits i : g.Fits i (.locked key)).apply_self
    fun j hj => (h.fits j).apply hj

theorem leave (h : g.Keeps st) (hi : st i = .admitted key) :
    (g.leave key i).Keeps (update st i .outside) where
  nodup_line k := by
    rw [line_leave]
    split
    · exact (h.nodup_line key).erase i
    · exact h.nodup_line k
  nodup_permits := h.nodup_permits.erase i
  fits := by
    have before : g.Fits i (.admitted key) := hi ▸ h.fits i
    refine fits_update ?_ fun j hj => (h.fits j).leave hj (before.hasLock key rfl)
    refine ⟨fun k => iff_of_false ?_ nofun, nofun, iff_of_false ?_ nofun, nofun⟩
    · rw [line_leave]
      split
      · exact (h.nodup_line key).not_mem_erase
      · next hk =>
        rw [before.mem_line]
        exact fun hl => hk (Option.some.inj hl).symm
    · exact h.nodup_permits.not_mem_erase

/-! ### What the lines say -/

/-- No two calls that have taken the lock of a fleet. -/
theorem exclusive (h : g.Keeps st) (hi : (st i).lock? = some key) (hj : (st j).lock? = some key) :
    i = j :=
  eq_of_hasLock ((h.fits i).hasLock key hi) ((h.fits j).hasLock key hj)

/-- No more calls that have taken a permit than there are permits. -/
theorem length_le_room (h : g.Keeps st) {calls : List Nat} (distinct : calls.Nodup)
    (all : ∀ i ∈ calls, ∃ key, st i = .admitted key) : calls.length ≤ g.room := by
  have sub : calls ⊆ g.admitted := fun i hi => by
    obtain ⟨key, hk⟩ := all i hi
    exact hasPermit_iff.1 ((h.fits i).hasPermit key hk)
  exact Nat.le_trans (distinct.length_le_of_subset sub) g.length_admitted_le

/-- While no call has both, and some call is in a line, the first in some line can go on: it has its
permit, or its lock, or has the lock and finds the line for the permits empty. -/
theorem moves_on (h : g.Keeps st) (room : 0 < g.room) (idle : ∀ j key, st j ≠ .admitted key)
    (stands : (st i).line? = some key) :
    (∃ j key, st j = .applied key ∧ g.hasPermit j) ∨
      g.permits = [] ∧
        ((∃ j, st j = .inLine key ∧ g.hasLock key j) ∨ ∃ j, st j = .locked key) := by
  cases hp : g.permits with
  | cons j rest =>
    have applied : (st j).hasApplied := (h.fits j).mem_permits.1 (by simp [hp])
    have first : g.hasPermit j := by
      rw [hasPermit_iff, hp]
      obtain ⟨n, hn⟩ := Nat.exists_eq_add_one.2 room
      simp [hn]
    cases hj : st j with
    | applied k => exact .inl ⟨j, k, hj, first⟩
    | admitted k => exact absurd hj (idle j k)
    | outside | inLine | locked => simp [hj, Standing.hasApplied] at applied
  | nil =>
    refine .inr ⟨rfl, ?_⟩
    have hm := ((h.fits i).mem_line key).2 stands
    cases hl : g.line key with
    | nil => simp [hl] at hm
    | cons j rest =>
      have first : g.hasLock key j := hasLock_iff.2 (by rw [hl]; rfl)
      have stands := ((h.fits j).mem_line key).1 (by simp [hl])
      have none : ¬(st j).hasApplied := by
        rw [← (h.fits j).mem_permits, hp]
        exact List.not_mem_nil
      cases hj : st j with
      | inLine k =>
        rw [hj] at stands
        cases stands
        exact .inl ⟨j, hj, first⟩
      | locked k =>
        rw [hj] at stands
        cases stands
        exact .inr ⟨j, hj⟩
      | outside => simp [hj, Standing.line?] at stands
      | applied | admitted => simp [hj, Standing.hasApplied] at none

end Keeps

end Gate

end FleetMend
