import FleetMend.Proofs.Cycle.Bounds
import FleetMend.Store

/-!
The dialogue of a cycle, beside a store that others write to as well.

* `Store.Edits`: what others may do to a store in the meantime.
* `Store.Serves`: what an answer means for the store.  A call that is given up or fails has left the
  store as it was.
* `Store.Course`: the answers of a log, one after the other, with the statuses that were written.
* `Store.Course.eq_nil_of_not_writes`: without a write in the log, none has come about.
-/

namespace FleetMend

/-- A status that was written: the fleet as it was stored before, and as it is stored then. -/
structure Write where
  key : FleetKey
  before : Fleet
  after : Fleet

/-- The call writes a status. -/
def Call.writes : Call → Bool
  | writeStatus .. => true
  | _ => false

def Request.writes : Request → Bool
  | call c | callWithin c _ => c.writes
  | pause .. => false

/-- The question waits for a status to be written. -/
def Query.writes : Query → Bool
  | await r _ => r.writes
  | _ => false

namespace Store

/-- Others write to the store, as often as they like. -/
inductive Edits : Store → Store → Prop where
  | refl (s : Store) : Edits s s
  | spec {s t : Store} (h : Edits s t) (key : FleetKey) (spec : FleetSpec) :
    Edits s (t.updateSpec key spec).2
  | status {s t : Store} (h : Edits s t) (key : FleetKey) (version : Nat) (status : FleetStatus) :
    Edits s (t.updateStatus key version status).2

/-- What a reply means for the store that gives it. -/
def Replies (s : Store) : (c : Call) → c.Reply → List Write → Store → Prop
  | .readFleet key, .ok f, ws, t => f = s.find? key ∧ ws = [] ∧ t = s
  | .writeStatus key version status, .ok g, ws, t =>
    ∃ f, s.find? key = some f ∧ s.updateStatus key version status = (.ok g, t) ∧ ws = [⟨key, f, g⟩]
  | _, _, ws, t => ws = [] ∧ t = s

/-- What an answer means for the store; a call that is given up has done nothing to it. -/
def Serves (s : Store) : (q : Query) → q.Answer → List Write → Store → Prop
  | .await (.call c) _, .ok reply, ws, t => s.Replies c reply ws t
  | .await (.callWithin c _) _, .ok (some reply), ws, t => s.Replies c reply ws t
  | _, _, ws, t => ws = [] ∧ t = s

/-- The answers of a log, with edits by others before each and after the last. -/
inductive Course : Store → Cycle.Log → List Write → Store → Prop where
  | rest {s t : Store} (edits : s.Edits t) : Course s [] [] t
  | next {s s' u t : Store} {q : Query} {a : q.Answer} {log : Cycle.Log} {ws ws' : List Write}
    (edits : s.Edits s') (serves : s'.Serves q a ws u) (course : Course u log ws' t) :
    Course s (⟨q, a⟩ :: log) (ws ++ ws') t

end Store

/-! ### Edits -/

namespace Store

variable {s s' t u : Store} {key : FleetKey} {f : Fleet}

/-- A fleet stays as it is, or has a later version. -/
theorem find?_modify (h : s.find? key = some f) (key' : FleetKey)
    (change : Fleet → Except ControlError Fleet) :
    ∃ g, (s.modify key' change).2.find? key = some g ∧ (g = f ∨ f.version < g.version) := by
  rcases s.modify_cases key' change with ⟨e, hm⟩ | ⟨a, b, hk, -, hm⟩
  · exact ⟨f, by rw [hm, h], .inl rfl⟩
  · simp only [hm, SortedMap.find?_insert]
    by_cases hkey : key = key'
    · obtain rfl : a = f := Option.some.inj (by rw [← hk, ← h, hkey])
      exact ⟨_, by rw [if_pos hkey], .inr (Nat.lt_succ_self _)⟩
    · exact ⟨f, by rw [if_neg hkey, h], .inl rfl⟩

theorem Edits.find? (h : s.Edits t) (hs : s.find? key = some f) :
    ∃ g, t.find? key = some g ∧ (g = f ∨ f.version < g.version) := by
  induction h with
  | refl => exact ⟨f, hs, .inl rfl⟩
  | spec _ key' _ ih | status _ key' _ _ ih =>
    obtain ⟨g, hg, hfg⟩ := ih
    obtain ⟨g', hg', hgg⟩ := find?_modify hg key' _
    refine ⟨g', hg', ?_⟩
    -- Versions only grow, so one that has been left does not come back.
    rcases hgg with rfl | hgg
    · exact hfg
    · rcases hfg with rfl | hfg
      · exact .inr hgg
      · exact .inr (Nat.lt_trans hfg hgg)

/-- A status is written in the place of the one that was read, or not at all. -/
theorem updateStatus_of_edits {g : Fleet} {status : FleetStatus} (h : s.Edits s')
    (hs : s.find? key = some f) (hw : s'.updateStatus key f.version status = (.ok g, t)) :
    s'.find? key = some f ∧ g = { f with status, version := f.version + 1 } := by
  obtain ⟨f', hf', hff⟩ := h.find? hs
  by_cases hv : f'.version = f.version
  · rw [updateStatus_of_version_eq hf' hv] at hw
    rcases hff with rfl | hlt
    · cases hw
      exact ⟨hf', rfl⟩
    · omega
  · rw [updateStatus_of_version_ne hf' hv] at hw
    cases hw

/-! ### Courses -/

theorem Replies.eq_nil_of_not_writes {c : Call} {reply : c.Reply} {ws : List Write}
    (h : s.Replies c reply ws t) (hc : c.writes = false) : ws = [] := by
  cases c with
  | writeStatus => cases hc
  | readFleet =>
    cases reply with
    | error => exact h.1
    | ok => exact h.2.1
  | collectStatus | collectUsage | listPods | deletePod | readClaim | deleteClaim => exact h.1

theorem Serves.eq_nil_of_not_writes {q : Query} {a : q.Answer} {ws : List Write}
    (h : s.Serves q a ws t) (hq : q.writes = false) : ws = [] := by
  cases q with
  | await r limit =>
    rcases a with e | a
    · cases r <;> exact h.1
    · cases r with
      | call c => exact Replies.eq_nil_of_not_writes h hq
      | callWithin c =>
        cases a with
        | none => exact h.1
        | some reply => exact Replies.eq_nil_of_not_writes h hq
      | pause => exact h.1
  | clock | wallClock | shuttingDown | announce => exact h.1

variable {q : Query} {a : q.Answer} {log log₁ log₂ : Cycle.Log} {ws : List Write}

theorem Course.of_nil (h : Course s [] ws t) : ws = [] ∧ s.Edits t := by
  cases h with
  | rest edits => exact ⟨rfl, edits⟩

theorem Course.of_cons (h : Course s (⟨q, a⟩ :: log) ws t) :
    ∃ s' u ws₁ ws₂, s.Edits s' ∧ s'.Serves q a ws₁ u ∧ Course u log ws₂ t ∧ ws = ws₁ ++ ws₂ := by
  cases h with
  | next edits serves course => exact ⟨_, _, _, _, edits, serves, course, rfl⟩

/-- An answer that writes nothing adds nothing to the writes, whatever others do before. -/
theorem Course.edited (edits : s.Edits s') (serves : s'.Serves q a [] u)
    (course : Course u log ws t) : Course s (⟨q, a⟩ :: log) ws t :=
  .next edits serves course

theorem Course.still (serves : s.Serves q a [] u) (course : Course u log ws t) :
    Course s (⟨q, a⟩ :: log) ws t :=
  .next (.refl s) serves course

/-- A course splits where its log does. -/
theorem Course.of_append (h : Course s (log₁ ++ log₂) ws t) :
    ∃ u ws₁ ws₂, Course s log₁ ws₁ u ∧ Course u log₂ ws₂ t ∧ ws = ws₁ ++ ws₂ := by
  induction log₁ generalizing s ws with
  | nil => exact ⟨s, [], ws, .rest (.refl s), h, rfl⟩
  | cons e log₁ ih =>
    obtain ⟨s', u, ws₁, ws₂, edits, serves, course, rfl⟩ := Course.of_cons h
    obtain ⟨u', ws₃, ws₄, first, second, rfl⟩ := ih course
    exact ⟨u', ws₁ ++ ws₃, ws₄, .next edits serves first, second, (List.append_assoc ..).symm⟩

/-- Where the log asks for no write, none has come about. -/
theorem Course.eq_nil_of_not_writes (h : Course s log ws t)
    (hw : ∀ e ∈ log, e.1.writes = false) : ws = [] := by
  induction h with
  | rest => rfl
  | @next _ _ _ _ q a _ ws₁ _ _ serves _ ih =>
    obtain ⟨hq, hl⟩ := List.forall_mem_cons.1 hw
    obtain rfl : ws₁ = [] := serves.eq_nil_of_not_writes hq
    exact ih hl

end Store

end FleetMend
