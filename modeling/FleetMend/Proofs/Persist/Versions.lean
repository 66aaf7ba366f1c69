import FleetMend.Store

/-!
What a version says about the fleet it was read with.

* `Store.Operation`: what clients do to a store.  `Store.after` is the store after a history of it,
  and `Store.writes` are the operations of the history that changed the fleet of a key.
* `Store.version_after`: each such change is counted by the version, as long as the fleet is not
  removed.
* `Store.eq_or_recreated`: a status that is written against a version meets the fleet the version
  was read with, or one that was created anew and has been changed as often.
* `Store.overwritten_unseen`: the second case happens.
-/

namespace FleetMend

namespace Store

/-- What a client does to a store. -/
inductive Operation
  | upsert (f : Fleet)
  | updateSpec (key : FleetKey) (spec : FleetSpec)
  | remove (key : FleetKey)
  | get (key : FleetKey)
  | updateStatus (key : FleetKey) (version : Nat) (status : FleetStatus)

namespace Operation

/-- The store after the operation. -/
def apply (s : Store) : Operation → Store
  | upsert f => (s.upsert f).2
  | updateSpec key spec => (s.updateSpec key spec).2
  | remove key => (s.remove key).2
  | get _ => s
  | updateStatus key version status => (s.updateStatus key version status).2

/-- The operation is a write to the key and succeeds. -/
def writes (key : FleetKey) (s : Store) : Operation → Bool
  | upsert f => f.key == key
  | updateSpec k spec => k == key && (s.updateSpec k spec).1.isOk
  | remove k => k == key && (s.remove k).1.isSome
  | get _ => false
  | updateStatus k version status => k == key && (s.updateStatus k version status).1.isOk

def removes : Operation → Bool
  | remove _ => true
  | _ => false

end Operation

/-- The store after a history. -/
def after (s : Store) (history : List Operation) : Store := history.foldl Operation.apply s

/-- The successful writes of a history to a key. -/
def writes (key : FleetKey) (s : Store) : List Operation → List Operation
  | [] => []
  | op :: history =>
    if op.writes key s then op :: writes key (op.apply s) history
    else writes key (op.apply s) history

/-- The version of the fleet stored under a key; a missing fleet counts as not yet written. -/
def version (s : Store) (key : FleetKey) : Nat := ((s.find? key).map (·.version)).getD 0

/-- The fleet of the key was removed for the last time, and there were so many writes to the key
since. -/
def Recreates (s : Store) (key : FleetKey) (history : List Operation) (n : Nat) : Prop :=
  ∃ earlier later, history = earlier ++ .remove key :: later ∧
    (∀ op ∈ writes key ((s.after earlier).remove key).2 later, op.removes = false) ∧
    (writes key ((s.after earlier).remove key).2 later).length = n

section

variable {s t : Store} {key : FleetKey} {f g : Fleet} {op : Operation} {history : List Operation}

theorem version_of_find? (h : s.find? key = some f) : s.version key = f.version := by
  rw [version, h]
  rfl

@[simp] theorem version_remove : ((s.remove key).2).version key = 0 := by
  rw [version, remove, SortedMap.find?_erase, if_pos rfl]
  rfl

theorem after_append (history later : List Operation) :
    s.after (history ++ later) = (s.after history).after later := List.foldl_append

/-- A change that does not go through, or is one of another fleet, leaves the fleet as it was. -/
theorem find?_modify_of_not {key' : FleetKey} {change : Fleet → Except ControlError Fleet}
    (h : (key' == key && (s.modify key' change).1.isOk) = false) :
    (s.modify key' change).2.find? key = s.find? key := by
  rcases s.modify_cases key' change with ⟨e, hm⟩ | ⟨f, g, -, -, hm⟩
  · rw [hm]
  · rw [hm] at h ⊢
    have other : key ≠ key' := fun same => by simp [same, Except.isOk, Except.toBool] at h
    rw [SortedMap.find?_insert, if_neg other]

theorem version_modify {change : Fleet → Except ControlError Fleet}
    (h : (s.modify key change).1.isOk = true) :
    (s.modify key change).2.version key = s.version key + 1 := by
  rcases s.modify_cases key change with ⟨e, hm⟩ | ⟨f, g, hf, -, hm⟩
  · rw [hm] at h
    cases h
  · rw [hm, version_of_find? hf, version_of_find? (SortedMap.find?_insert_self s key _)]

namespace Operation

/-- What is no write to a key leaves its fleet as it was. -/
theorem find?_apply (h : op.writes key s = false) : (op.apply s).find? key = s.find? key := by
  cases op with
  | upsert f =>
    have other : key ≠ f.key := fun same => by simp [writes, same] at h
    exact (SortedMap.find?_insert s f.key key _).trans (if_neg other)
  | updateSpec | updateStatus => exact find?_modify_of_not h
  | get => rfl
  | remove k =>
    rw [apply, Store.remove, SortedMap.find?_erase]
    by_cases same : key = k
    · cases same
      rw [if_pos rfl]
      cases hf : s.find? key with
      | none => rfl
      | some f => simp [writes, Store.remove, hf] at h
    · exact if_neg same

/-- A write to a key counts the version on. -/
theorem version_apply (h : op.writes key s = true) (kept : op.removes = false) :
    (op.apply s).version key = s.version key + 1 := by
  cases op with
  | upsert f =>
    obtain rfl : f.key = key := eq_of_beq h
    exact version_of_find? (SortedMap.find?_insert_self s f.key _)
  | updateSpec k | updateStatus k =>
    obtain ⟨same, ok⟩ := Bool.and_eq_true_iff.1 h
    obtain rfl : k = key := eq_of_beq same
    exact version_modify ok
  | remove => cases kept
  | get => cases h

end Operation

/-- Without a write to a key, its fleet stays. -/
theorem find?_after (h : s.writes key history = []) :
    (s.after history).find? key = s.find? key := by
  induction history generalizing s with
  | nil => rfl
  | cons op history ih =>
    rw [writes] at h
    cases hw : op.writes key s with
    | true => simp [hw] at h
    | false =>
      rw [hw, if_neg Bool.false_ne_true] at h
      exact (ih h).trans (Operation.find?_apply hw)

/-- **Versions count.**  As long as the fleet of a key is not removed, its version counts the writes
to the key. -/
theorem version_after (kept : ∀ op ∈ s.writes key history, op.removes = false) :
    (s.after history).version key = s.version key + (s.writes key history).length := by
  induction history generalizing s with
  | nil => rfl
  | cons op history ih =>
    rw [writes] at kept ⊢
    cases hw : op.writes key s with
    | false =>
      rw [hw, if_neg Bool.false_ne_true] at kept
      rw [if_neg Bool.false_ne_true]
      refine (ih kept).trans ?_
      rw [version, version, Operation.find?_apply hw]
    | true =>
      rw [hw, if_pos rfl] at kept
      rw [if_pos rfl, List.length_cons]
      refine (ih fun op h => kept op (List.mem_cons_of_mem _ h)).trans ?_
      rw [Operation.version_apply hw (kept op List.mem_cons_self)]
      omega

/-- Of the removals in a history, one is the last. -/
theorem exists_last_removal (h : ∃ op ∈ s.writes key history, op.removes = true) :
    ∃ earlier later, history = earlier ++ .remove key :: later ∧
      ∀ op ∈ writes key ((s.after earlier).remove key).2 later, op.removes = false := by
  induction history generalizing s with
  | nil => obtain ⟨op, hm, -⟩ := h; cases hm
  | cons op history ih =>
    by_cases later : ∃ op' ∈ (op.apply s).writes key history, op'.removes = true
    · obtain ⟨earlier, rest, rfl, kept⟩ := ih later
      exact ⟨op :: earlier, rest, rfl, kept⟩
    · -- Only the first operation is left to be a removal.
      have kept : ∀ op' ∈ (op.apply s).writes key history, op'.removes = false := fun op' hm =>
        Bool.eq_false_iff.2 fun hr => later ⟨op', hm, hr⟩
      obtain ⟨op', hm, hr⟩ := h
      rw [writes] at hm
      cases hw : op.writes key s with
      | false =>
        rw [hw, if_neg Bool.false_ne_true] at hm
        exact absurd ⟨op', hm, hr⟩ later
      | true =>
        rw [hw, if_pos rfl] at hm
        rcases List.mem_cons.1 hm with rfl | hm
        · cases op' with
          | remove k =>
            obtain rfl : k = key := eq_of_beq (Bool.and_eq_true_iff.1 hw).1
            exact ⟨[], history, rfl, kept⟩
          | upsert | updateSpec | get | updateStatus => cases hr
        · exact absurd ⟨op', hm, hr⟩ later

/-- A fleet whose version has come back is the same, or was created anew. -/
theorem same_or_recreated {f' : Fleet} (read : s.find? key = some f)
    (again : (s.after history).find? key = some f') (hv : f'.version = f.version) :
    s.writes key history = [] ∧ f' = f ∨ s.Recreates key history f.version := by
  by_cases removed : ∃ op ∈ s.writes key history, op.removes = true
  · right
    obtain ⟨earlier, later, rfl, kept⟩ := exists_last_removal removed
    refine ⟨earlier, later, rfl, kept, ?_⟩
    have count := version_after kept
    rw [version_remove, Nat.zero_add] at count
    rw [← count, ← hv, ← version_of_find? again, after_append]
    rfl
  · left
    have kept : ∀ op ∈ s.writes key history, op.removes = false := fun op hm =>
      Bool.eq_false_iff.2 fun hr => removed ⟨op, hm, hr⟩
    have count := version_after kept
    rw [version_of_find? again, version_of_find? read, hv] at count
    have none : s.writes key history = [] := List.eq_nil_of_length_eq_zero (by omega)
    exact ⟨none, Option.some.inj (again.symm.trans ((find?_after none).trans read))⟩

/-- **Compare and swap.**  A status that is written against the version of an earlier read meets the
fleet that was read, with no write to the key in between; or else the fleet was removed and created
anew, and written to as often since as its version says. -/
theorem eq_or_recreated {status : FleetStatus} (read : s.find? key = some f)
    (wrote : (s.after history).updateStatus key f.version status = (.ok g, t)) :
    ∃ f', (s.after history).find? key = some f' ∧
      g = { f' with status, version := f.version + 1 } ∧
      t = (s.after history).insert key g ∧
      (s.writes key history = [] ∧ f' = f ∨ s.Recreates key history f.version) := by
  rcases (s.after history).modify_cases key _ with ⟨e, hm⟩ | ⟨f', g', hf', hc, hm⟩
  · rw [updateStatus, hm] at wrote
    cases wrote
  · rw [updateStatus, hm] at wrote
    split at hc
    · next hv =>
      cases hc
      cases wrote
      exact ⟨f', hf', by rw [hv], rfl, same_or_recreated read hf' hv⟩
    · cases hc

end

/-! ### A fleet created anew

A client reads a fleet, and another one removes it and puts one with more replicas in its place. -/

namespace Anew

def key : FleetKey := ⟨"default", "osmosis"⟩

def fleet (replicas : UInt32) : Fleet := { key, spec := { replicas } }

def opened : Store := (∅ : Store).after [.upsert (fleet 3)]

/-- What the other client does. -/
def exchange : List Operation := [.remove key, .upsert (fleet 5)]

theorem find?_opened : opened.find? key = some { fleet 3 with version := 1 } :=
  SortedMap.find?_insert_self _ _ _

theorem writes_exchange : opened.writes key exchange = exchange := rfl

theorem find?_exchanged : (opened.after exchange).find? key = some { fleet 5 with version := 1 } :=
  SortedMap.find?_insert_self _ _ _

/-- The client who has read the first fleet writes the status of the second. -/
theorem updateStatus_exchanged (status : FleetStatus) :
    (opened.after exchange).updateStatus key 1 status =
      (.ok { fleet 5 with status, version := 2 },
        (opened.after exchange).insert key { fleet 5 with status, version := 2 }) :=
  updateStatus_of_version_eq find?_exchanged rfl status

end Anew

open Anew in
/-- The second fleet has been written to once, as the first one had been when it was read. -/
theorem eq_or_recreated_anew :
    opened.find? key = some { fleet 3 with version := 1 } ∧
      (opened.after exchange).updateStatus key 1 {} =
        (.ok { fleet 5 with version := 2 },
          (opened.after exchange).insert key { fleet 5 with version := 2 }) ∧
      opened.Recreates key exchange 1 := by
  refine ⟨find?_opened, updateStatus_exchanged {}, ?_⟩
  obtain ⟨-, -, -, -, ⟨none, -⟩ | anew⟩ := eq_or_recreated find?_opened (updateStatus_exchanged {})
  · rw [writes_exchange] at none
    cases none
  · exact anew

open Anew in
/-- **An unseen change.**  A status that is written against the version of an earlier read may
overwrite that of another fleet than was read. -/
theorem overwritten_unseen :
    ¬∀ (before between : List Operation) (key : FleetKey) (f g : Fleet) (status : FleetStatus)
        (t : Store), ((∅ : Store).after before).find? key = some f →
      (((∅ : Store).after before).after between).updateStatus key f.version status = (.ok g, t) →
      ((∅ : Store).after before).writes key between = [] := by
  intro seen
  have none := seen [.upsert (fleet 3)] exchange key _ _ {} _ find?_opened (updateStatus_exchanged {})
  exact absurd (writes_exchange.symm.trans none) (List.cons_ne_nil _ _)

end Store

end FleetMend
