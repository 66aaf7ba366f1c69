import FleetMend.Proofs.Persist.Attempt
import FleetMend.Proofs.Persist.History
import FleetMend.Store
import Mathlib.Logic.Function.Basic

/-!
Calls that write patches to one fleet at the same time, each going on by one request at a time, in
any order, with edits of the operator in between.

* `Race.run`: the race after a schedule.  Its history says what has happened so far.
* `Stands`: how far a call has got after a history.  `Race.Sound` says that the stored fleet is the
  replay of the history and that every call stands somewhere; every move keeps it (`Sound.proceed`,
  `Sound.edit`).
* `Race.serializable`: no write and no edit is lost.  The stored status is the first one with the
  patches of the writes applied in order, and a call that has ended has written once, or has seen
  that there was nothing to write, or has lost every attempt that it had.
-/

namespace FleetMend

variable {ι : Type} [DecidableEq ι]

/-- What goes on next. -/
inductive Move (ι : Type)
  /-- A call makes its next request. -/
  | proceed (i : ι)
  /-- The operator puts another spec in place. -/
  | edit (spec : FleetSpec)

structure Race (ι : Type) where
  store : Store
  /-- What is left to do of each call. -/
  calls : ι → Errand (Except ControlError Unit)
  history : List (Deed ι) := []

namespace Race

/-- All calls are about to begin. -/
def start (s : Store) (key : FleetKey) (w : ι → Writer) : Race ι where
  store := s
  calls i := persist (w i).policy key (w i).patch

/-- A call makes its next request, which the store answers at once; a call that has ended does
nothing. -/
def proceed (r : Race ι) (i : ι) : Race ι :=
  match r.calls i with
  | .ask (.call (.readFleet key)) next =>
    { r with
      calls := Function.update r.calls i (next (.ok (r.store.find? key)))
      history := r.history ++ [.read i] }
  | .ask (.call (.writeStatus key version status)) next =>
    let (reply, store) := r.store.updateStatus key version status
    { store
      calls := Function.update r.calls i (next reply)
      history := r.history ++ [if reply.isOk then .wrote i else .refused i] }
  | .ask (.pause ..) next => { r with calls := Function.update r.calls i (next ()) }
  | _ => r

/-- The operator puts another spec in place. -/
def edit (r : Race ι) (key : FleetKey) (spec : FleetSpec) : Race ι :=
  { r with
    store := (r.store.updateSpec key spec).2
    history := r.history ++ [.edited spec] }

def move (key : FleetKey) (r : Race ι) : Move ι → Race ι
  | .proceed i => r.proceed i
  | .edit spec => r.edit key spec

/-- The race after the moves of a schedule. -/
def run (key : FleetKey) (r : Race ι) (moves : List (Move ι)) : Race ι := moves.foldl (move key) r

end Race

/-! ### How far a call has got -/

/-- The patch of the call changes nothing in the fleet. -/
def Writer.Settled (w : Writer) (f : Fleet) : Prop := (w.patch.apply f.status == f.status) = true

/-- After the history, this is left to do of the call. -/
inductive Stands (key : FleetKey) (w : ι → Writer) (f : Fleet) (i : ι) :
    List (Deed ι) → Errand (Except ControlError Unit) → Prop where
  /-- All attempts so far were lost, and the next, if one is left, begins with a read. -/
  | reading {h : List (Deed ι)} {n left : Nat} (hl : Lost i n h)
      (hn : n + left = (w i).policy.limit) :
      Stands key w f i h (persistLeft (w i).policy key (w i).patch left)
  /-- All attempts so far were lost, and there is a pause before the next. -/
  | pausing {h : List (Deed ι)} {n left : Nat} (hl : Lost i n h)
      (hn : n + (left + 1) = (w i).policy.limit) :
      Stands key w f i h (retry (w i).policy key (w i).patch (left + 1))
  /-- The call has read the fleet, and is about to write. -/
  | writing {before since : List (Deed ι)} {n left : Nat} (hl : Lost i n before)
      (hn : n + (left + 1) = (w i).policy.limit) (hq : Quiet i since) :
      Stands key w f i (before ++ .read i :: since)
        (.ask (Request.call (.writeStatus key (replay w before f).version
          ((w i).patch.apply (replay w before f).status)))
          (afterWrite (retry (w i).policy key (w i).patch left)))
  /-- The call has seen that its patch changes nothing. -/
  | settled {before since : List (Deed ι)} {n : Nat} (hl : Lost i n before) (hq : Quiet i since)
      (hs : (w i).Settled (replay w before f)) :
      Stands key w f i (before ++ .read i :: since) (.done (.ok ()))
  | written {h : List (Deed ι)} (hc : (writers h).count i = 1) :
      Stands key w f i h (.done (.ok ()))

namespace Stands

variable {key : FleetKey} {w : ι → Writer} {f : Fleet} {i : ι} {h t : List (Deed ι)}
  {p : Errand (Except ControlError Unit)}

/-- A call stands where it stood while others go on. -/
theorem append (hp : Stands key w f i h p) (ht : Quiet i t) : Stands key w f i (h ++ t) p := by
  cases hp with
  | reading hl hn => exact .reading (hl.append ht) hn
  | pausing hl hn => exact .pausing (hl.append ht) hn
  | writing hl hn hq =>
    rw [List.append_assoc, List.cons_append]
    exact .writing hl hn (hq.append ht)
  | settled hl hq hs =>
    rw [List.append_assoc, List.cons_append]
    exact .settled hl (hq.append ht) hs
  | written hc =>
    refine .written ?_
    rw [writers_append, List.count_append, hc, List.count_eq_zero_of_not_mem ht.not_mem_writers]

/-- After a lost attempt the call pauses, or gives up if it was the last. -/
theorem of_lost {n left : Nat} (hl : Lost i n h) (hn : n + left = (w i).policy.limit) :
    Stands key w f i h (retry (w i).policy key (w i).patch left) := by
  cases left with
  | zero => exact .reading hl hn
  | succ left => exact .pausing hl hn

/-- After a read the call writes, or is done if there is nothing to write. -/
theorem of_read {n left : Nat} (hl : Lost i n h) (hn : n + (left + 1) = (w i).policy.limit) :
    Stands key w f i (h ++ [.read i])
      (afterRead key (w i).patch (retry (w i).policy key (w i).patch left)
        (.ok (some (replay w h f)))) := by
  rw [afterRead]
  split
  · next hs => exact .settled hl (Quiet.nil i) hs
  · exact .writing hl hn (Quiet.nil i)

/-- What a call that has ended has to show for it. -/
theorem of_done {a : Except ControlError Unit} (hp : Stands key w f i h p) (ha : p = .done a) :
    (a = .ok () ∧ ((writers h).count i = 1 ∨ i ∉ writers h ∧ ∃ before since,
      h = before ++ .read i :: since ∧ Quiet i since ∧ (w i).Settled (replay w before f))) ∨
    (a = .error (.retriesExhausted key (w i).policy.limit) ∧ Lost i (w i).policy.limit h) := by
  cases hp with
  | @reading _ n left hl hn =>
    cases left with
    | zero =>
      obtain rfl : _ = a := Program.done.inj ha
      exact .inr ⟨rfl, hn ▸ hl⟩
    | succ left =>
      rw [persistLeft_succ] at ha
      cases ha
  | pausing => rw [retry_succ] at ha; cases ha
  | writing => cases ha
  | @settled before since n hl hq hs =>
    obtain rfl : _ = a := Program.done.inj ha
    refine .inl ⟨rfl, .inr ⟨?_, before, since, rfl, hq, hs⟩⟩
    simp [hl.not_mem_writers, hq.not_mem_writers]
  | written hc =>
    obtain rfl : _ = a := Program.done.inj ha
    exact .inl ⟨rfl, .inl hc⟩

end Stands

/-! ### Every schedule -/

namespace Race

variable {key : FleetKey} {w : ι → Writer} {f : Fleet} {r : Race ι} {i : ι}

/-- The stored fleet is the replay of the history, and every call stands somewhere. -/
structure Sound (key : FleetKey) (w : ι → Writer) (f : Fleet) (r : Race ι) : Prop where
  stored : r.store.find? key = some (replay w r.history f)
  calls : ∀ i, Stands key w f i r.history (r.calls i)

theorem sound_start {s : Store} (h : s.find? key = some f) : (start s key w).Sound key w f :=
  ⟨h, fun i => .reading (.none (Quiet.nil i)) (Nat.zero_add _)⟩

/-- One call has gone on, and nothing that was done since is a request of another. -/
theorem Sound.update (hr : r.Sound key w f) {store : Store} {t : List (Deed ι)}
    {p : Errand (Except ControlError Unit)}
    (hs : store.find? key = some (replay w (r.history ++ t) f))
    (ht : ∀ j, j ≠ i → Quiet j t) (hp : Stands key w f i (r.history ++ t) p) :
    Sound key w f ⟨store, Function.update r.calls i p, r.history ++ t⟩ := by
  refine ⟨hs, fun j => ?_⟩
  by_cases hj : j = i
  · subst hj
    simpa only [Function.update_self] using hp
  · simpa only [Function.update_of_ne hj] using (hr.calls j).append (ht j hj)

omit [DecidableEq ι] in
/-- A request of one call is no request of another. -/
theorem quiet_of_ne {j : ι} (hj : j ≠ i) {d : Deed ι} (hd : d.IsBy i) : Quiet j [d] := by
  intro d' hd' hb
  obtain rfl := List.mem_singleton.1 hd'
  cases d' with
  | read | wrote | refused => exact hj (hb.symm.trans hd)
  | edited => exact hd

theorem Sound.proceed_read (hr : r.Sound key w f)
    {next : Except ControlError (Option Fleet) → Errand (Except ControlError Unit)}
    (hp : r.calls i = .ask (Request.call (.readFleet key)) next)
    (hn : Stands key w f i (r.history ++ [.read i]) (next (.ok (some (replay w r.history f))))) :
    (r.proceed i).Sound key w f := by
  have hs := hr.stored
  rw [proceed, hp]
  simp only [hs]
  refine hr.update ?_ (fun j hj => quiet_of_ne hj rfl) hn
  rw [replay_append]
  exact hs

/-- A write goes through only if the fleet is still the one that was read, and is refused only if
the fleet has been changed since. -/
theorem Sound.proceed_write (hr : r.Sound key w f) {before since : List (Deed ι)} {n left : Nat}
    (hh : r.history = before ++ .read i :: since) (hl : Lost i n before)
    (hn : n + (left + 1) = (w i).policy.limit) (hq : Quiet i since)
    (hp : r.calls i = .ask (Request.call (.writeStatus key (replay w before f).version
      ((w i).patch.apply (replay w before f).status)))
      (afterWrite (retry (w i).policy key (w i).patch left))) :
    (r.proceed i).Sound key w f := by
  have hs := hr.stored
  -- What was read is the fleet after `before`; what is stored has gone through `since` as well.
  have hsince : replay w r.history f = replay w since (replay w before f) := by
    rw [hh, replay_append]
    rfl
  by_cases hv : (replay w r.history f).version = (replay w before f).version
  · have hf : replay w r.history f = replay w before f := by
      rw [hsince]
      exact replay_eq_of_version_eq (hsince ▸ hv)
    rw [proceed, hp]
    simp only [Store.updateStatus_of_version_eq hs hv]
    refine hr.update ?_ (fun j hj => quiet_of_ne hj rfl) (.written ?_)
    · rw [SortedMap.find?_insert_self, replay_append, hf]
      rfl
    · have hb := hl.not_mem_writers
      have hw := hq.not_mem_writers
      rw [hh]
      simp [Except.isOk, Except.toBool, List.count_eq_zero_of_not_mem hb,
        List.count_eq_zero_of_not_mem hw]
  · -- the attempt is lost to one of these changes
    have hc : ∃ d ∈ since, d.Changes := exists_changes_of_version_ne (hsince ▸ hv)
    rw [proceed, hp]
    simp only [Store.updateStatus_of_version_ne hs hv]
    refine hr.update ?_ (fun j hj => quiet_of_ne hj rfl) ?_
    · rw [replay_append]
      exact hs
    · have hm : Lost i (n + 1) (r.history ++ [.refused i]) := by
        rw [hh]
        simpa using Lost.more hl hq hc (Quiet.nil i)
      exact Stands.of_lost hm (by omega)

theorem Sound.proceed (hr : r.Sound key w f) (i : ι) : (r.proceed i).Sound key w f := by
  have hi := hr.calls i
  generalize hp : r.calls i = p at hi
  generalize hh : r.history = h at hi
  cases hi with
  | @reading _ n left hl hn =>
    cases left with
    | zero =>
      rw [Race.proceed, hp]
      exact hr
    | succ left =>
      rw [persistLeft_succ] at hp
      subst hh
      exact hr.proceed_read hp (.of_read hl hn)
  | pausing hl hn =>
    rw [retry_succ] at hp
    rw [Race.proceed, hp]
    subst hh
    -- A pause is nothing that happens to the fleet, so the history stays as it is.
    have hu := hr.update (t := []) (i := i) (by simpa using hr.stored) (fun j _ => Quiet.nil j)
      (by simpa using Stands.reading hl hn)
    simpa using hu
  | writing hl hn hq => exact hr.proceed_write hh hl hn hq hp
  | settled | written =>
    rw [Race.proceed, hp]
    exact hr

theorem Sound.edit (hr : r.Sound key w f) (spec : FleetSpec) : (r.edit key spec).Sound key w f := by
  refine ⟨?_, fun i => (hr.calls i).append fun d hd hb => ?_⟩
  · simp only [Race.edit, Store.updateSpec_of_find? hr.stored, SortedMap.find?_insert_self,
      replay_append]
    rfl
  · obtain rfl := List.mem_singleton.1 hd
    exact hb

theorem Sound.run (hr : r.Sound key w f) (moves : List (Move ι)) :
    (r.run key moves).Sound key w f := by
  induction moves generalizing r with
  | nil => exact hr
  | cons m moves ih =>
    cases m with
    | proceed i => exact ih (hr.proceed i)
    | edit spec => exact ih (hr.edit spec)

/-- **No update is lost.**  After any schedule the stored status is the first one with the patches
of the calls that have written applied whole, in the order of their writes, and the stored spec is
that of the last edit.  A call that has succeeded has written once, or has found at its last read
that its patch changes nothing; a call that has failed has written nothing, and one that has given
up has lost every attempt that it had to a change between its read and its write. -/
theorem serializable {s : Store} (h : s.find? key = some f) (w : ι → Writer)
    (moves : List (Move ι)) :
    let r := (start s key w).run key moves
    (∃ g, r.store.find? key = some g ∧ g.status = applied w (writers r.history) f.status ∧
      g.spec = (specs r.history).getLastD f.spec) ∧
    ∀ i,
      (r.calls i = .done (.ok ()) → (writers r.history).count i = 1 ∨
        i ∉ writers r.history ∧ ∃ before since, r.history = before ++ .read i :: since ∧
          Quiet i since ∧ (w i).Settled (replay w before f)) ∧
      (∀ e, r.calls i = .done (.error e) → i ∉ writers r.history) ∧
      ∀ k n, r.calls i = .done (.error (.retriesExhausted k n)) →
        k = key ∧ n = (w i).policy.limit ∧ Lost i n r.history := by
  intro r
  have hr : r.Sound key w f := (sound_start h).run moves
  refine ⟨⟨_, hr.stored, replay_status w _ f, replay_spec w _ f⟩, fun i => ⟨?_, ?_, ?_⟩⟩
  · intro hd
    rcases (hr.calls i).of_done hd with ⟨-, h⟩ | ⟨he, -⟩
    · exact h
    · cases he
  · intro e hd
    rcases (hr.calls i).of_done hd with ⟨he, -⟩ | ⟨-, hl⟩
    · cases he
    · exact hl.not_mem_writers
  · intro k n hd
    rcases (hr.calls i).of_done hd with ⟨he, -⟩ | ⟨he, hl⟩
    · cases he
    · cases he
      exact ⟨rfl, rfl, hl⟩

/-- A call that is overtaken between its read and its write, and that meets an edit on top, writes
its patch on what the other has left. -/
theorem serializable_overtaken :
    let key : FleetKey := ⟨"default", "stride"⟩
    let f : Fleet := { key, spec := { replicas := 3 } }
    let s : Store := SortedMap.empty.insert key f
    let w (i : Bool) : Writer :=
      ⟨⟨3, 10, .ofSize false 0 1⟩,
        [.recordFailure (if i then "stride-0" else "stride-1") ⟨0, false⟩ ⟨.ofSecs 300, 10⟩]⟩
    let r := (start s key w).run key
      [.proceed true, .proceed false, .proceed false, .proceed true, .edit { replicas := 4 },
        .proceed true, .proceed true, .proceed true]
    s.find? key = some f ∧ r.calls true = .done (.ok ()) ∧ r.calls false = .done (.ok ()) ∧
      ∃ g, r.store.find? key = some g ∧ g.status = applied w [false, true] f.status ∧
        g.spec = { replicas := 4 } :=
  ⟨rfl, rfl, rfl, (serializable rfl _ _).1⟩

end Race

end FleetMend
