import FleetMend.Proofs.Cycle.Parts

/-!
A cycle stores its changes whole or not at all, and announces them only once they are stored.

* `Stored`: what it takes for the changes of a cycle to count as stored.
* `stored_of_ends_storeChanges`: storing changes succeeds where they are stored, and has written
  nothing where it fails.
* `Orchestrator.reconcile_atomic`: the same of a whole cycle, with what it announces.
-/

namespace FleetMend

/-- A log shows that the fleet was read. -/
def Cycle.Read (log : Cycle.Log) (key : FleetKey) (f : Fleet) : Prop :=
  ∃ limit, ⟨.await (.call (.readFleet key)) limit,
    (.ok (.ok (some f)) : Except Abort (Except ControlError (Option Fleet)))⟩ ∈ log

/-- How a patch comes to be stored, with the writes that it takes. -/
inductive Stored (key : FleetKey) (patch : Patch) (log : Cycle.Log) : List Write → Prop where
  | nothing (empty : patch = []) : Stored key patch log []
  /-- The patch changes nothing in the fleet that was read last. -/
  | unchanged {f : Fleet} (read : Cycle.Read log key f)
    (same : (patch.apply f.status == f.status) = true) : Stored key patch log []
  /-- The patch is written whole to the fleet as it is stored by then, whose spec stays. -/
  | written (f : Fleet) : Stored key patch log
      [⟨key, f, { f with status := patch.apply f.status, version := f.version + 1 }⟩]

theorem Stored.mono {key : FleetKey} {patch : Patch} {log log' : Cycle.Log} {ws : List Write}
    (h : Stored key patch log ws) (hl : ∀ e ∈ log, e ∈ log') : Stored key patch log' ws := by
  cases h with
  | nothing empty => exact .nothing empty
  | unchanged read same =>
    obtain ⟨limit, hm⟩ := read
    exact .unchanged ⟨limit, hl _ hm⟩ same
  | written f => exact .written f

/-! ### Attempts to store -/

/-- The result of storing a patch fits the writes that it took. -/
def Persisted (key : FleetKey) (patch : Patch) (log : Cycle.Log) (ws : List Write) :
    Except Abort (Except ControlError Unit) → Prop
  | .ok (.ok ()) => Stored key patch log ws
  | _ => ws = []

section Persist

variable {key : FleetKey} {patch : Patch} {limit : Nat} {s t : Store} {log : Cycle.Log}
  {ws : List Write} {r : Except Abort (Except ControlError Unit)}

theorem Persisted.cons (h : Persisted key patch log ws r) (e : (q : Query) × q.Answer) :
    Persisted key patch (e :: log) ws r := by
  rcases r with _ | _ | _
  · exact h
  · exact h
  · exact Stored.mono h fun _ hm => List.mem_cons_of_mem e hm

theorem persisted_of_done {e : ControlError}
    (ends : (Cycle.within limit (.done (.error e))).Ends log r) (course : s.Course log ws t) :
    Persisted key patch log ws r := by
  obtain ⟨rfl, rfl⟩ := Program.ends_done_iff.1 ends
  exact course.of_nil.1

/-- An answer that is no reply ends the wait. -/
theorem persisted_of_abort {a : Abort}
    (ends : (Program.done (.error a) : Cycle (Except Abort (Except ControlError Unit))).Ends log r)
    (course : s.Course log ws t) : Persisted key patch log ws r := by
  obtain ⟨rfl, rfl⟩ := Program.ends_done_iff.1 ends
  exact course.of_nil.1

/-- A write under the version that was read puts the patch in place, or does nothing. -/
theorem persisted_of_write {again : Errand (Except ControlError Unit)} {f : Fleet}
    (hagain : ∀ {s : Store} {log ws}, (Cycle.within limit again).Ends log r →
      s.Course log ws t → Persisted key patch log ws r)
    (read : s.find? key = some f)
    (ends : (Cycle.within limit (.ask
      (Request.call (.writeStatus key f.version (patch.apply f.status)))
      (afterWrite again))).Ends log r)
    (course : s.Course log ws t) : Persisted key patch log ws r := by
  obtain ⟨x, rest, rfl, after⟩ := Cycle.ends_within_ask_iff.1 ends
  obtain ⟨s', u, ws₁, ws₂, edits, serves, later, rfl⟩ := course.of_cons
  rcases x with a | e | g
  · obtain ⟨rfl, rfl⟩ := serves
    exact (persisted_of_abort after later).cons _
  · obtain ⟨rfl, rfl⟩ := serves
    change (Cycle.within limit (if e.isConflict then again else .done (.error e))).Ends rest r
      at after
    -- A refused write has left the store as it was, whether or not there is another attempt.
    by_cases conflict : e.isConflict
    · rw [if_pos conflict] at after
      exact (hagain after later).cons _
    · rw [if_neg conflict] at after
      exact (persisted_of_done after later).cons _
  · obtain ⟨f', found, written, rfl⟩ := serves
    -- The version is that of the read, so nothing has come in between.
    obtain ⟨found', rfl⟩ := Store.updateStatus_of_edits edits read written
    obtain rfl := Option.some.inj (found.symm.trans found')
    obtain ⟨rfl, rfl⟩ := Program.ends_done_iff.1 after
    rw [later.of_nil.1]
    exact .written f'

/-- An attempt stores the patch, leaves the store as it was, or goes on as another does. -/
theorem persisted_of_attempt {again : Errand (Except ControlError Unit)}
    (hagain : ∀ {s : Store} {log ws}, (Cycle.within limit again).Ends log r →
      s.Course log ws t → Persisted key patch log ws r)
    (ends : (Cycle.within limit
      (.ask (Request.call (.readFleet key)) (afterRead key patch again))).Ends log r)
    (course : s.Course log ws t) : Persisted key patch log ws r := by
  obtain ⟨x, rest, rfl, after⟩ := Cycle.ends_within_ask_iff.1 ends
  obtain ⟨s', u, ws₁, ws₂, edits, serves, later, rfl⟩ := course.of_cons
  rcases x with a | e | _ | f
  · obtain ⟨rfl, rfl⟩ := serves
    exact (persisted_of_abort after later).cons _
  · obtain ⟨rfl, rfl⟩ := serves
    exact (persisted_of_done after later).cons _
  · obtain ⟨-, rfl, rfl⟩ := serves
    exact (persisted_of_done after later).cons _
  · obtain ⟨hread, rfl, rfl⟩ := serves
    change (Cycle.within limit (if patch.apply f.status == f.status then .done (.ok ()) else .ask
      (Request.call (.writeStatus key f.version (patch.apply f.status)))
      (afterWrite again))).Ends rest r at after
    by_cases same : (patch.apply f.status == f.status) = true
    · rw [if_pos same] at after
      obtain ⟨rfl, rfl⟩ := Program.ends_done_iff.1 after
      rw [later.of_nil.1]
      exact .unchanged ⟨limit, List.mem_cons_self⟩ same
    · rw [if_neg same] at after
      exact (persisted_of_write hagain hread.symm after later).cons _

theorem persisted_of_persistLeft {policy : RetryPolicy} (left : Nat)
    (ends : (Cycle.within limit (persistLeft policy key patch left)).Ends log r)
    (course : s.Course log ws t) : Persisted key patch log ws r := by
  induction left generalizing s log ws with
  | zero => exact persisted_of_done ends course
  | succ left ih =>
    rw [persistLeft_succ] at ends
    refine persisted_of_attempt (fun ends course => ?_) ends course
    -- A pause stands before every attempt but the first.
    cases left with
    | zero => exact persisted_of_done ends course
    | succ left =>
      rw [retry_succ] at ends
      obtain ⟨x, rest, rfl, after⟩ := Cycle.ends_within_ask_iff.1 ends
      obtain ⟨s', u, ws₁, ws₂, edits, serves, later, rfl⟩ := course.of_cons
      rcases x with a | _
      · obtain ⟨rfl, rfl⟩ := serves
        exact (persisted_of_abort after later).cons _
      · obtain ⟨rfl, rfl⟩ := serves
        exact (ih after later).cons _

end Persist

/-! ### The end of a cycle -/

/-- How the changes of a cycle fared fits its writes and what it has told. -/
structure Closing.Fits (closing : Closing) (key : FleetKey) (contribution : Contribution)
    (log : Cycle.Log) (ws : List Write) : Prop where
  /-- Changes that are stored have been written whole, in one write at most. -/
  stored : closing = .stored → Stored key contribution.patch log ws
  unstored : closing ≠ .stored → ws = []
  /-- What announces the changes is told where they are stored, and not otherwise. -/
  told : Cycle.held log = if closing = .stored then contribution.actions.map (key, ·) else []

/-- A part of the cycle before that tells of no changes makes no difference. -/
theorem Closing.Fits.append {closing : Closing} {key : FleetKey} {contribution : Contribution}
    {log₁ log₂ : Cycle.Log} {ws : List Write} (h : closing.Fits key contribution log₂ ws)
    (silent : Cycle.held log₁ = []) : closing.Fits key contribution (log₁ ++ log₂) ws := by
  refine ⟨fun hs => (h.stored hs).mono fun _ hm => List.mem_append_right _ hm, h.unstored, ?_⟩
  rw [Cycle.held_append, silent]
  exact h.told

namespace Orchestrator

variable {o : Orchestrator} {key : FleetKey} {c : CycleContext} {patch : Patch} {s t : Store}
  {log : Cycle.Log} {ws : List Write}

/-- Where storing changes succeeds they are stored, and where it fails nothing is written. -/
theorem stored_of_ends_storeChanges {r : Except ControlError Unit}
    (ends : (o.storeChanges key c patch).Ends log r) (course : s.Course log ws t) :
    (r = .ok () → Stored key patch log ws) ∧ ∀ e, r = .error e → ws = [] := by
  unfold storeChanges at ends
  by_cases empty : patch.isEmpty
  · rw [if_pos empty] at ends
    obtain ⟨rfl, rfl⟩ := Program.ends_done_iff.1 ends
    rw [course.of_nil.1]
    exact ⟨fun _ => .nothing (List.isEmpty_iff.1 empty), fun _ he => by cases he⟩
  · rw [if_neg empty] at ends
    obtain ⟨r, bounded, rfl⟩ := Program.ends_map_iff.1 ends
    obtain ⟨now, x, rest, rfl, within, rfl⟩ := CycleContext.ends_withinDeadline_iff.1 bounded
    obtain ⟨s', u, ws₁, ws₂, edits, serves, later, rfl⟩ := course.of_cons
    obtain ⟨rfl, rfl⟩ := serves
    have persisted := (persisted_of_persistLeft _ within later).cons ⟨.clock, now⟩
    rcases x with (_ | _) | _ | _
    · exact ⟨fun h => (by cases h), fun _ _ => persisted⟩
    · exact ⟨fun h => (by cases h), fun _ _ => persisted⟩
    · exact ⟨fun h => (by cases h), fun _ _ => persisted⟩
    · exact ⟨fun _ => persisted, fun _ he => by cases he⟩

/-- The end of a cycle tells what announces its changes where they are stored. -/
theorem fits_of_ends_conclude {contribution : Contribution} {closing : Closing}
    (back : contribution.HoldsBack) (ends : (o.conclude key c contribution).Ends log closing)
    (course : s.Course log ws t) : closing.Fits key contribution log ws := by
  obtain ⟨l₁, l₂, r, rfl, storing, after⟩ := Program.ends_bind_iff.1 ends
  obtain ⟨u, ws₁, ws₂, course₁, course₂, rfl⟩ := course.of_append
  obtain ⟨hok, herror⟩ := stored_of_ends_storeChanges storing course₁
  have silent : Cycle.held l₁ = [] :=
    Cycle.held_eq_nil fun e he => ((keeps_storeChanges.of_ends storing).1 e he).1
  cases r with
  | error e =>
    obtain ⟨x, rest, rfl, hdone⟩ := Program.ends_ask_iff.1 after
    obtain ⟨rfl, rfl⟩ := Program.ends_done_iff.1 hdone
    have hws : ws₂ = [] := course₂.eq_nil_of_not_writes (by simp [Query.writes])
    rw [herror e rfl, hws]
    refine ⟨fun h => (by cases h), fun _ => rfl, ?_⟩
    rw [Cycle.held_append, silent]
    rfl
  | ok u =>
    obtain ⟨l₃, l₄, u, rfl, telling, hdone⟩ := Program.ends_bind_iff.1 after
    obtain ⟨rfl, rfl⟩ := Program.ends_done_iff.1 hdone
    rw [List.append_nil] at course₂ ⊢
    obtain rfl := Cycle.ends_announceAll_iff.1 telling
    rw [course₂.eq_nil_of_not_writes Cycle.not_writes_of_mem_telling, List.append_nil]
    refine ⟨fun _ => (hok rfl).mono fun _ hm => List.mem_append_left _ hm,
      fun h => absurd rfl h, ?_⟩
    rw [Cycle.held_append, silent, Cycle.held, Cycle.told_telling, if_pos rfl, List.nil_append]
    refine List.filter_eq_self.2 fun e he => ?_
    obtain ⟨event, hm, rfl⟩ := List.mem_map.1 he
    exact back event hm

/-- A preliminary part of a cycle writes nothing, and tells nothing that waits. -/
theorem nothing_of_preliminary (h : ∀ e ∈ log, e.1.Preliminary) (course : s.Course log ws t) :
    ws = [] ∧ Cycle.held log = [] :=
  ⟨course.eq_nil_of_not_writes fun e he => (h e he).1, Cycle.held_eq_nil fun e he => (h e he).2⟩

theorem fits_of_heals {f : Fleet} {heal : HealSpec} {contribution : Contribution}
    {closing : Closing} (heals : o.Heals key f heal c log contribution closing)
    (course : s.Course log ws t) : closing.Fits key contribution log ws := by
  cases heals with
  | cancelled timed evaluated looked =>
    obtain ⟨rfl, silent⟩ := nothing_of_preliminary (preliminary_of_ends timed evaluated looked) course
    exact ⟨fun h => (by cases h), fun _ => rfl, silent⟩
  | concluded timed evaluated looked concluded =>
    obtain ⟨u, ws₁, ws₂, course₁, course₂, rfl⟩ := course.of_append
    obtain ⟨rfl, silent⟩ := nothing_of_preliminary (preliminary_of_ends timed evaluated looked) course₁
    have back := (keeps_evaluate.of_ends evaluated).2
    exact (fits_of_ends_conclude back concluded course₂).append silent

end Orchestrator

/-- What a cycle reports fits its writes and what it has told. -/
def Report.Fits (key : FleetKey) (log : Cycle.Log) (ws : List Write) : Report → Prop
  | .healed _ contribution closing => closing.Fits key contribution log ws
  | .unread _ | .idle => ws = [] ∧ Cycle.held log = []

/-- **All or nothing.**  Whatever the replies, the delays, the shutdowns and the edits by others: a
cycle writes the status once at most, and then puts all its changes in place of the status that is
stored by then, and leaves the spec.  A cycle that is cancelled, or whose changes cannot be stored,
writes nothing.  What announces the changes is told where they are stored, and not otherwise. -/
theorem Orchestrator.reconcile_atomic {o : Orchestrator} {key : FleetKey} {c : CycleContext}
    {s t : Store} {log : Cycle.Log} {ws : List Write} {outcome : Outcome}
    (ends : (o.reconcile key c).Ends log outcome) (course : s.Course log ws t) :
    ∃ report, (o.cycle key c).Ends log report ∧ outcome = o.outcome report ∧
      report.Fits key log ws := by
  obtain ⟨report, cycled, rfl⟩ := Program.ends_map_iff.1 ends
  refine ⟨report, cycled, rfl, ?_⟩
  have quiet {l : Cycle.Log} {r : Except ControlError (Option Fleet)}
      (read : (c.run "get resource" o.settings.ioMillis (Errand.call (.readFleet key))).Ends l r) :
      ∀ e ∈ l, e.1.Preliminary := fun e he => ((keeps_readFleet.of_ends read).1 e he).1
  cases reports_of_ends cycled with
  | still read still =>
    have nothing := nothing_of_preliminary (quiet read) course
    rcases still with rfl | ⟨e, rfl⟩
    · exact nothing
    · exact nothing
  | healed read asked heals =>
    obtain ⟨u, ws₁, ws₂, course₁, course₂, rfl⟩ := course.of_append
    obtain ⟨rfl, silent⟩ := nothing_of_preliminary (quiet read) course₁
    exact (fits_of_heals heals course₂).append silent

/-! ### An edit while the cycle runs

A lagging pod is deleted, and its claim is gone.  Before the failure is stored the spec is edited. -/

namespace Edited

def orchestrator : Orchestrator := .ofSettings {}

def context : CycleContext := ⟨50000⟩

def key : FleetKey := ⟨"default", "osmosis"⟩

def now : Time := ⟨1000000000000, false⟩

def regenerate : RegenerateSpec := ⟨.ofSecs 300, 1⟩

def drift : DriftSpec := { threshold := 50, regenerate := some regenerate }

def fleet : Fleet :=
  { key, version := 1, spec := { replicas := 2, heal := some { drift := some drift } } }

def spec : FleetSpec := { fleet.spec with replicas := 3 }

def edited : Fleet := { fleet with spec, version := 2 }

def sound : Pod := ⟨"osmosis-0", "default", 0, "data-osmosis-0", some ⟨0, false⟩, []⟩

def slow : Pod := ⟨"osmosis-1", "default", 0, "data-osmosis-1", some ⟨0, false⟩, []⟩

def items : List StatusItem :=
  [⟨sound, some 100, some true, none, now⟩, ⟨slow, some 40, some true, none, now⟩]

def failure : StatusOp := .recordFailure "osmosis-1" now (.ofSpec regenerate)

def regenerating : Event := .claimRegenerating "osmosis-1" (.ofSecs 300)

def contribution : Contribution :=
  { patch := [.setSyncInfo (deriveSyncInfo items ∅), failure], actions := [regenerating] }

def stored : Fleet :=
  { edited with status := contribution.patch.apply edited.status, version := 3 }

def setting : DriftSetting := ⟨fleet, drift, context, orchestrator.settings.ioMillis, now⟩

/-- The reply to a call that is made when the cycle begins. -/
def replied (call : Call) (reply : call.Reply) : Cycle.Log :=
  context.replied orchestrator.settings.ioMillis 0 call reply

def gone : Cycle.Log := replied (.readClaim "default" "data-osmosis-1") (.ok none)

/-- What drift asks and tells. -/
def mitigated : Cycle.Log :=
  replied (.collectStatus fleet) items ++ (replied (.deletePod slow) (.ok ()) ++ gone ++
    Cycle.telling key [.podsDeletedForDrift 50 none 1])

def log : Cycle.Log :=
  replied (.readFleet key) (.ok (some fleet)) ++
    ([⟨.wallClock, now⟩] ++ ([] ++ [] ++ mitigated) ++
      [⟨.shuttingDown, false⟩, ⟨.clock, (0 : Nat)⟩] ++
      (⟨.clock, (0 : Nat)⟩ ::
        Orchestrator.persisted key edited stored contribution.patch context.deadline ++
        Cycle.telling key [regenerating]))

def outcome : Outcome := ⟨some orchestrator.settings.requeueMillis, {}⟩

def store : Store := SortedMap.empty.insert key fleet

theorem ends_mitigated :
    (mitigateDrift orchestrator.settings.minReady setting).Ends mitigated contribution := by
  have lags : setting.lagging orchestrator.settings.minReady items (deriveSyncInfo items ∅) =
      [slow] := by decide
  have regenerated : (setting.regenerateClaim slow).Ends gone (.ok ()) :=
    Program.ends_bind_iff.2 ⟨_, [], .ok none, (List.append_nil _).symm,
      Program.ends_map_iff.2 ⟨_, CycleContext.ends_bound_call, rfl⟩, .done _⟩
  have remedied : (setting.remedy
      { working := fleet.status
        contribution := { patch := [.setSyncInfo (deriveSyncInfo items ∅)] } } slow).Ends
      (replied (.deletePod slow) (.ok ()) ++ gone)
      { working := (failure.apply fleet.status).1, deleted := 1, contribution } :=
    DriftSetting.ends_remedy
      (Program.ends_bind_iff.2 ⟨_, [], _, (List.append_nil _).symm, regenerated, .done _⟩)
  exact ends_mitigateDrift lags
    (Program.ends_bind_iff.2 ⟨_, [], _, (List.append_nil _).symm, remedied, .done _⟩)

theorem ends_log : (orchestrator.reconcile key context).Ends log outcome := by
  have evaluated : (orchestrator.evaluate fleet { drift := some drift } context now).Ends
      ([] ++ [] ++ mitigated) contribution :=
    Orchestrator.ends_evaluate_iff.2
      ⟨[], [], mitigated, {}, {}, _, rfl, rfl, .done _, .done _, ends_mitigated⟩
  have looked : context.isCancelled.Ends [⟨.shuttingDown, false⟩, ⟨.clock, (0 : Nat)⟩] false :=
    CycleContext.ends_isCancelled (by decide)
  -- The spec has been edited by then, so the fleet is not the one that the evaluators saw.
  have concluded : (orchestrator.conclude key context contribution).Ends
      (⟨.clock, (0 : Nat)⟩ ::
        Orchestrator.persisted key edited stored contribution.patch context.deadline ++
        Cycle.telling key [regenerating]) .stored := Orchestrator.ends_conclude rfl (by decide)
  exact Program.ends_map_iff.2 ⟨_, Orchestrator.ends_cycle rfl
    (.concluded (Program.ends_put_iff.2 rfl) evaluated looked concluded), rfl⟩

theorem course_log : store.Course log [⟨key, edited, stored⟩]
    ((store.updateSpec key spec).2.insert key stored) := by
  have before : store.find? key = some fleet := SortedMap.find?_insert_self ..
  have found : (store.updateSpec key spec).2.find? key = some edited := by
    rw [Store.updateSpec_of_find? before]
    exact SortedMap.find?_insert_self ..
  -- the read, the wall clock, and what drift asks and tells
  refine .still ⟨rfl, rfl⟩ (.still ⟨before.symm, rfl, rfl⟩ (.still ⟨rfl, rfl⟩ ?_))
  refine .still ⟨rfl, rfl⟩ (.still ⟨rfl, rfl⟩ (.still ⟨rfl, rfl⟩ (.still ⟨rfl, rfl⟩ ?_)))
  refine .still ⟨rfl, rfl⟩ (.still ⟨rfl, rfl⟩ (.still ⟨rfl, rfl⟩ ?_))
  refine .still ⟨rfl, rfl⟩ (.still ⟨rfl, rfl⟩ (.still ⟨rfl, rfl⟩ ?_))
  -- the edit, before the fleet is read again
  refine .edited (.spec (.refl store) key spec) ⟨found.symm, rfl, rfl⟩ ?_
  have wrote := Store.updateStatus_of_version_eq found rfl stored.status
  change Store.Course _ _ ([⟨key, edited, stored⟩] ++ []) _
  exact .next (.refl _) ⟨edited, found, wrote, rfl⟩ (.still ⟨rfl, rfl⟩ (.rest (.refl _)))

end Edited

open Edited in
/-- The changes are stored beside the edit, and what announces them is told. -/
theorem Orchestrator.reconcile_atomic_edited :
    (orchestrator.reconcile key context).Ends log Edited.outcome ∧
      store.Course log [⟨key, edited, stored⟩]
        ((store.updateSpec key spec).2.insert key stored) ∧
      Cycle.held log = [(key, regenerating)] ∧
      ∃ report, (orchestrator.cycle key context).Ends log report ∧
        Edited.outcome = orchestrator.outcome report ∧
          report.Fits key log [⟨key, edited, stored⟩] :=
  ⟨ends_log, course_log, rfl, reconcile_atomic ends_log course_log⟩

end FleetMend
