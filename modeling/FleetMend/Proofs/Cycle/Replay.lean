import FleetMend.Proofs.Cycle.Regeneration

/-!
What drift decides about the claims of the pods that it deletes, and what its changes say of it when
they are made.

Drift goes by a copy of the failures, in which a failure does not count whose claim could not be
deleted.  Its changes go by the failures of the status in which they are made.

* `Fate`: what becomes of a lagging pod.  `DriftSetting.Remedies`: the dialogue that leads there.
* `Remediation.Mirrors`: the copy is as the changes so far leave the failures that were read.
* `DriftSetting.Replays`: the changes answer as drift has decided.
* `DriftSetting.replays_of_ends`: they do, whatever the replies, and whatever pods lag.
-/

namespace FleetMend

/-- What becomes of a lagging pod. -/
inductive Fate
  /-- It cannot be deleted. -/
  | kept
  /-- It is deleted, and this failure is not one too many. -/
  | deleted
  /-- It is deleted for the last time, and its claim is gone. -/
  | regenerated
  /-- It is deleted for the last time, and its claim cannot be deleted. -/
  | stuck
deriving DecidableEq

/-- The failure is logged. -/
def Fate.logs : Fate → Bool
  | deleted | regenerated => true
  | kept | stuck => false

namespace DriftSetting

/-- The dialogue deletes the pod, or finds it gone. -/
def Deletes (s : DriftSetting) (pod : Pod) (log : Cycle.Log) : Prop :=
  ∃ now, ∃ reply : Except ControlError Unit,
    log = s.context.replied s.io now (.deletePod pod) reply ∧ Removed reply

/-- The dialogue about a lagging pod, and where it leads. -/
inductive Remedies (s : DriftSetting) (pod : Pod) : Cycle.Log → Fate → Prop
  | kept {log : Cycle.Log} {reply : Except ControlError Unit} {e : ControlError}
      (asked : (s.context.run "delete pod" s.io (Errand.call (.deletePod pod))).Ends log reply)
      (fails : ignoreNotFound reply = .error e) :
      Remedies s pod
        (log ++ Cycle.telling s.fleet.key [.driftPodDeleteFailed pod.name e.message]) .kept
  | deleted {log : Cycle.Log} (h : s.Deletes pod log) : Remedies s pod log .deleted
  | regenerated {log gone : Cycle.Log} (h : s.Deletes pod log)
      (loses : s.LosesClaim pod gone) :
      Remedies s pod (log ++ gone) .regenerated
  | stuck {log failed : Cycle.Log} {e : ControlError} (h : s.Deletes pod log)
      (fails : (s.regenerateClaim pod).Ends failed (.error e)) :
      Remedies s pod (log ++ (failed ++
        Cycle.telling s.fleet.key [.claimRegenerationFailed pod.name e.message])) .stuck

end DriftSetting

/-- A pod that lagged, with the dialogue about it and where that led. -/
structure Remedied where
  pod : Pod
  log : Cycle.Log
  fate : Fate

namespace Remedied

/-- The change that logs the failure. -/
def failure? (tracker : Tracker) (now : Time) (d : Remedied) : Option StatusOp :=
  if d.fate.logs then some (.recordFailure d.pod.name now tracker) else none

/-- The event that announces the regeneration. -/
def event? (tracker : Tracker) (d : Remedied) : Option Event :=
  if d.fate = .regenerated then some (.claimRegenerating d.pod.name tracker.window) else none

/-- The changes that log the failures of these pods, in order. -/
def failures (tracker : Tracker) (now : Time) (ds : List Remedied) : Patch :=
  ds.filterMap (·.failure? tracker now)

/-- Of each failure that is logged, whether the claim is gone. -/
def decisions (ds : List Remedied) : List Bool :=
  (ds.filter (·.fate.logs)).map (·.fate = .regenerated)

variable {tracker : Tracker} {now : Time} {ds : List Remedied}

theorem failures_append (ds more : List Remedied) :
    failures tracker now (ds ++ more) = failures tracker now ds ++ failures tracker now more :=
  List.filterMap_append

theorem decisions_append (ds more : List Remedied) :
    decisions (ds ++ more) = decisions ds ++ decisions more := by
  rw [decisions, List.filter_append, List.map_append]
  rfl

theorem exists_of_mem_failures {op : StatusOp} (h : op ∈ failures tracker now ds) :
    ∃ d ∈ ds, d.fate.logs = true ∧ op = .recordFailure d.pod.name now tracker := by
  obtain ⟨d, hd, hop⟩ := List.mem_filterMap.1 h
  obtain ⟨logs, hop⟩ := Option.ite_none_right_eq_some.1 hop
  exact ⟨d, hd, logs, (Option.some.inj hop).symm⟩

theorem filter_logs_failures :
    (failures tracker now ds).filter (·.logs) = failures tracker now ds := by
  refine List.filter_eq_self.2 fun op h => ?_
  obtain ⟨d, -, -, rfl⟩ := exists_of_mem_failures h
  rfl

end Remedied

/-- The deletions so far go by the failures as the changes that log them leave them in the status
that was read, and these changes answer there as was decided. -/
structure Remediation.Mirrors (r : Remediation) (s : DriftSetting) (tracker : Tracker)
    (info : SortedMap String SyncInfo) (ds : List Remedied) : Prop where
  patch : r.contribution.patch = .setSyncInfo info :: Remedied.failures tracker s.now ds
  actions : r.contribution.actions = ds.filterMap (·.event? tracker)
  counted : ∀ name, r.working.failureLog name =
    ((Remedied.failures tracker s.now ds).apply s.fleet.status).failureLog name
  answers : (Remedied.failures tracker s.now ds).answers s.fleet.status = Remedied.decisions ds

namespace Remediation.Mirrors

variable {r : Remediation} {s : DriftSetting} {tracker : Tracker}
  {info : SortedMap String SyncInfo} {ds : List Remedied} {d : Remedied}

/-- A failure that is not logged leaves everything as it was. -/
theorem failed (h : r.Mirrors s tracker info ds) (unlogged : d.fate.logs = false)
    (e : ControlError) : (r.add (.failed e)).Mirrors s tracker info (ds ++ [d]) := by
  have silent : d.fate ≠ .regenerated := fun same => by simp [same, Fate.logs] at unlogged
  have none : Remedied.failures tracker s.now (ds ++ [d]) = Remedied.failures tracker s.now ds := by
    simp [Remedied.failures, Remedied.failure?, unlogged]
  refine ⟨?_, ?_, ?_, ?_⟩
  · exact (List.append_nil _).trans (none ▸ h.patch)
  · refine (List.append_nil _).trans (h.actions.trans ?_)
    simp [Remedied.event?, silent]
  · exact none ▸ h.counted
  · rw [none, h.answers, Remedied.decisions_append]
    simp [Remedied.decisions, unlogged]

/-- A failure is logged, and the claim is gone exactly where it is one too many. -/
theorem logged (h : r.Mirrors s tracker info ds) (d : Remedied) (logs : d.fate.logs = true)
    {actions : List Event} (told : [d].filterMap (·.event? tracker) = actions)
    (decided : ((StatusOp.recordFailure d.pod.name s.now tracker).apply r.working).2 =
      decide (d.fate = .regenerated)) :
    (r.logged (.recordFailure d.pod.name s.now tracker)
      ((StatusOp.recordFailure d.pod.name s.now tracker).apply r.working).1
      actions).Mirrors s tracker info (ds ++ [d]) := by
  have one : Remedied.failures tracker s.now [d] = [.recordFailure d.pod.name s.now tracker] := by
    simp [Remedied.failures, Remedied.failure?, logs]
  refine ⟨?_, ?_, fun name => ?_, ?_⟩
  · rw [Remedied.failures_append, one, ← List.cons_append, ← h.patch]
    rfl
  · rw [List.filterMap_append, ← h.actions, told]
    rfl
  · rw [Remedied.failures_append, one, Patch.apply_append]
    exact StatusOp.failureLog_congr (h.counted name)
  · rw [Remedied.failures_append, one, Patch.answers_append, h.answers, Remedied.decisions_append,
      Patch.answers, Patch.answers, ← StatusOp.answer_congr h.counted, decided]
    simp [Remedied.decisions, logs]

end Remediation.Mirrors

namespace DriftSetting

variable {s : DriftSetting} {pods : List Pod} {pod : Pod} {r r' : Remediation}
  {tracker : Tracker} {info : SortedMap String SyncInfo} {ds : List Remedied}
  {log log' : Cycle.Log}

/-- What follows the deletion of a pod decides its fate. -/
theorem mirrors_of_ends_logFailure (h : r.Mirrors s tracker info ds) (deletes : s.Deletes pod log)
    (ends : (s.logFailure tracker pod r).Ends log' r') :
    ∃ fate, s.Remedies pod (log ++ log') fate ∧
      r'.Mirrors s tracker info (ds ++ [⟨pod, log ++ log', fate⟩]) := by
  unfold logFailure at ends
  dsimp only at ends
  split at ends
  · next exceeded =>
    obtain ⟨l₁, l₂, x, rfl, regenerating, after⟩ := Program.ends_bind_iff.1 ends
    cases x with
    | error e =>
      obtain ⟨l₃, l₄, u, rfl, announced, done⟩ := Program.ends_bind_iff.1 after
      obtain ⟨rfl, rfl⟩ := Program.ends_done_iff.1 done
      obtain rfl := Program.ends_put_iff.1 announced
      rw [List.append_nil]
      exact ⟨.stuck, .stuck deletes regenerating, h.failed rfl e⟩
    | ok u =>
      obtain ⟨rfl, rfl⟩ := Program.ends_done_iff.1 after
      rw [List.append_nil]
      exact ⟨.regenerated, .regenerated deletes (ends_regenerateClaim_ok_iff.1 regenerating),
        h.logged ⟨pod, _, .regenerated⟩ rfl rfl exceeded⟩
  · next below =>
    obtain ⟨rfl, rfl⟩ := Program.ends_done_iff.1 ends
    rw [List.append_nil]
    exact ⟨.deleted, .deleted deletes,
      h.logged ⟨pod, _, .deleted⟩ rfl rfl (Bool.eq_false_iff.2 below)⟩

theorem mirrors_of_ends_remedy {regenerate : RegenerateSpec}
    (tracked : s.spec.regenerate = some regenerate)
    (h : r.Mirrors s (.ofSpec regenerate) info ds) (ends : (s.remedy r pod).Ends log r') :
    ∃ fate, s.Remedies pod log fate ∧
      r'.Mirrors s (.ofSpec regenerate) info (ds ++ [⟨pod, log, fate⟩]) := by
  obtain ⟨l₁, l₂, reply, rfl, asked, after⟩ := Program.ends_bind_iff.1 ends
  unfold afterDelete at after
  cases hreply : ignoreNotFound reply with
  | error e =>
    rw [hreply] at after
    obtain ⟨l₃, l₄, u, rfl, announced, done⟩ := Program.ends_bind_iff.1 after
    obtain ⟨rfl, rfl⟩ := Program.ends_done_iff.1 done
    obtain rfl := Program.ends_put_iff.1 announced
    rw [List.append_nil]
    exact ⟨.kept, .kept asked hreply, h.failed rfl e⟩
  | ok u =>
    rw [hreply] at after
    simp only [tracked] at after
    have counted : ({ r with deleted := r.deleted + 1 } : Remediation).Mirrors s
      (.ofSpec regenerate) info ds := ⟨h.patch, h.actions, h.counted, h.answers⟩
    obtain ⟨now, rest, rfl, within, gone⟩ := CycleContext.removed_of_ends_run asked hreply
    refine mirrors_of_ends_logFailure counted ⟨now, reply, ?_, gone⟩ after
    rw [Cycle.ends_within_call_iff.1 within]
    rfl

theorem mirrors_of_ends_foldlM {regenerate : RegenerateSpec}
    (tracked : s.spec.regenerate = some regenerate)
    (h : r.Mirrors s (.ofSpec regenerate) info ds) (ends : (pods.foldlM s.remedy r).Ends log r') :
    ∃ more : List Remedied, more.map (·.pod) = pods ∧ more.flatMap (·.log) = log ∧
      (∀ d ∈ more, s.Remedies d.pod d.log d.fate) ∧
      r'.Mirrors s (.ofSpec regenerate) info (ds ++ more) := by
  induction pods generalizing r log ds with
  | nil =>
    obtain ⟨rfl, rfl⟩ := Program.ends_done_iff.1 ends
    exact ⟨[], rfl, rfl, fun _ hd => absurd hd List.not_mem_nil, by rwa [List.append_nil]⟩
  | cons pod pods ih =>
    rw [List.foldlM_cons] at ends
    obtain ⟨l₁, l₂, r₁, rfl, first, others⟩ := Program.ends_bind_iff.1 ends
    obtain ⟨fate, remedies, mirrors⟩ := mirrors_of_ends_remedy tracked h first
    obtain ⟨more, hpods, hlog, all, mirrors⟩ := ih mirrors others
    refine ⟨⟨pod, l₁, fate⟩ :: more, ?_, ?_, List.forall_mem_cons.2 ⟨remedies, all⟩, ?_⟩
    · rw [List.map_cons, hpods]
    · rw [List.flatMap_cons, hlog]
    · rwa [List.append_cons]

/-- Deletes the pods, one after the other, and logs the deletions. -/
def remedyAll (s : DriftSetting) (pods : List Pod) (info : SortedMap String SyncInfo) :
    Cycle Remediation :=
  pods.foldlM s.remedy
    { working := s.fleet.status, contribution := { patch := [.setSyncInfo info] } }

/-- What drift has done about the lagging pods, and what its changes say of it in any status whose
failures are those that it read. -/
structure Replays (s : DriftSetting) (tracker : Tracker) (pods : List Pod) (log : Cycle.Log)
    (c : Contribution) (ds : List Remedied) : Prop where
  pods : ds.map (·.pod) = pods
  log : ds.flatMap (·.log) = log
  remedies : ∀ d ∈ ds, s.Remedies d.pod d.log d.fate
  /-- The changes log the failures of the pods that were deleted and, where it was to go, lost their
  claim, in order. -/
  failures : c.patch.filter (·.logs) = Remedied.failures tracker s.now ds
  /-- A regeneration is announced for every claim that is gone, in order. -/
  actions : c.actions = ds.filterMap (·.event? tracker)
  /-- A change answers that the failure is one too many exactly where the claim is gone. -/
  answers : ∀ t : FleetStatus, t.healing.failures = s.fleet.status.healing.failures →
    Patch.answers (c.patch.filter (·.logs)) t = Remedied.decisions ds
  /-- A pod none of whose failures is logged has the failures that it had, and their phase. -/
  untouched : ∀ t : FleetStatus, t.healing.failures = s.fleet.status.healing.failures →
    ∀ name, (∀ d ∈ ds, d.pod.name = name → d.fate.logs = false) →
      (c.patch.apply t).healing.failures.find? name =
        s.fleet.status.healing.failures.find? name

theorem exists_replays_of_ends_remedyAll {regenerate : RegenerateSpec}
    (tracked : s.spec.regenerate = some regenerate) (ends : (s.remedyAll pods info).Ends log r) :
    ∃ ds, s.Replays (.ofSpec regenerate) pods log r.contribution ds := by
  have start : Remediation.Mirrors
      { working := s.fleet.status, contribution := { patch := [.setSyncInfo info] } } s
      (.ofSpec regenerate) info [] := ⟨rfl, rfl, fun _ => rfl, rfl⟩
  obtain ⟨ds, hpods, hlog, all, mirrors⟩ := mirrors_of_ends_foldlM tracked start ends
  rw [List.nil_append] at mirrors
  have failures : r.contribution.patch.filter (·.logs) =
      Remedied.failures (.ofSpec regenerate) s.now ds := by
    rw [mirrors.patch, List.filter_cons_of_neg Bool.false_ne_true, Remedied.filter_logs_failures]
  refine ⟨ds, hpods, hlog, all, failures, mirrors.actions, fun t same => ?_,
    fun t same name unlogged => ?_⟩
  · rw [failures, ← mirrors.answers]
    exact Patch.answers_congr fun name => by rw [FleetStatus.failureLog, same]; rfl
  · rw [← same]
    refine Patch.find?_failures_apply fun op hop => ?_
    rw [mirrors.patch] at hop
    rcases List.mem_cons.1 hop with rfl | hop
    · exact (Option.some_ne_none name).symm
    · obtain ⟨d, hd, logs, rfl⟩ := Remedied.exists_of_mem_failures hop
      intro hname
      have silent := unlogged d hd (Option.some.inj hname)
      rw [logs] at silent
      cases silent

/-- **Replay.**  Whatever pods lag, whatever failures they had, and however the deletions of pods
and claims end: the changes of drift answer, in any status with the same failures, that a failure is
one too many exactly where the claim of the pod was found gone or deleted and its regeneration is
announced.  A deletion whose claim could not be deleted has no change, so a pod without other
deletions keeps its failures. -/
theorem replays_of_ends {regenerate : RegenerateSpec}
    (tracked : s.spec.regenerate = some regenerate) :
    (∀ pods info log r, (s.remedyAll pods info).Ends log r →
      ∃ ds, s.Replays (.ofSpec regenerate) pods log r.contribution ds) ∧
    ∀ minReady log c, (mitigateDrift minReady s).Ends log c →
      (∃ e, c = .failed e) ∨
        ∃ items before deleting after, log = before ++ deleting ++ after ∧
          (s.context.bound "collect sync status" s.io
            (Errand.call (.collectStatus s.fleet))).Ends before (.ok items) ∧
          ∃ ds, s.Replays (.ofSpec regenerate)
            (s.lagging minReady items (deriveSyncInfo items s.fleet.status.syncInfo))
            deleting c ds := by
  refine ⟨fun pods info log r => exists_replays_of_ends_remedyAll tracked,
    fun minReady log c ends => ?_⟩
  obtain ⟨before, l₂, x, rfl, asked, ends⟩ := Program.ends_bind_iff.1 ends
  cases x with
  | error e =>
    obtain ⟨-, rfl⟩ := Program.ends_done_iff.1 ends
    exact .inl ⟨e, rfl⟩
  | ok items =>
    obtain ⟨deleting, after, r, rfl, remedied, telling⟩ := Program.ends_bind_iff.1 ends
    obtain ⟨l₅, l₆, u, -, -, done⟩ := Program.ends_bind_iff.1 telling
    obtain ⟨-, rfl⟩ := Program.ends_done_iff.1 done
    exact .inr ⟨items, before, deleting, after, (List.append_assoc _ _ _).symm, asked,
      exists_replays_of_ends_remedyAll tracked remedied⟩

end DriftSetting

/-! ### Three deletions of one pod

The second failure is too many, but the claim cannot be read, so it is not logged.  The third is too
many again, and by then the claim is gone. -/

namespace Relapse

open Laggard (slow key replied)
open Overtaken (tracker fleet failure setting)

def down : ControlError := .gateway "connection refused"

def deleted : Cycle.Log := replied (.deletePod slow) (.ok ())

def refused : Cycle.Log :=
  replied (.readClaim slow.space slow.claim) (.error down) ++
    Cycle.telling key [.claimRegenerationFailed slow.name down.message]

def gone : Cycle.Log := replied (.readClaim slow.space slow.claim) (.ok none)

def log : Cycle.Log := deleted ++ ((deleted ++ refused) ++ ((deleted ++ gone) ++ []))

def start : Remediation :=
  { working := fleet.status, contribution := { patch := [.setSyncInfo ∅] } }

def once : Remediation where
  working := (failure.apply fleet.status).1
  deleted := 1
  contribution := { patch := [.setSyncInfo ∅, failure] }

def twice : Remediation where
  working := (failure.apply fleet.status).1
  deleted := 2
  contribution := { patch := [.setSyncInfo ∅, failure], failures := [down] }

def thrice : Remediation where
  working := (failure.apply (failure.apply fleet.status).1).1
  deleted := 3
  contribution :=
    { patch := [.setSyncInfo ∅, failure, failure]
      failures := [down]
      actions := [.claimRegenerating slow.name tracker.window] }

theorem ends_first : (setting.remedy start slow).Ends deleted once :=
  DriftSetting.ends_remedy (.done _)

theorem ends_second : (setting.remedy once slow).Ends (deleted ++ refused) twice := by
  have unread : (setting.regenerateClaim slow).Ends
      (replied (.readClaim slow.space slow.claim) (.error down)) (.error down) :=
    Program.ends_bind_iff.2 ⟨_, [], .error down, (List.append_nil _).symm,
      Program.ends_map_iff.2 ⟨_, CycleContext.ends_bound_call, rfl⟩, .done _⟩
  exact DriftSetting.ends_remedy (unread.bind ((Program.ends_put_iff.2 rfl).bind (.done _)))

theorem ends_third : (setting.remedy twice slow).Ends (deleted ++ gone) thrice := by
  have absent : (setting.regenerateClaim slow).Ends gone (.ok ()) :=
    DriftSetting.ends_regenerateClaim_ok_iff.2 .absent
  exact DriftSetting.ends_remedy
    (Program.ends_bind_iff.2 ⟨_, [], _, (List.append_nil _).symm, absent, .done _⟩)

theorem ends_remedyAll : (setting.remedyAll [slow, slow, slow] ∅).Ends log thrice :=
  ends_first.bind (ends_second.bind (ends_third.bind (.done _)))

end Relapse

open Laggard (slow) in
open Overtaken in
open Relapse in
/-- The changes log two of three failures, and the second is one too many. -/
theorem DriftSetting.replays_of_ends_relapse :
    setting.spec.regenerate = some ⟨.ofSecs 300, 2⟩ ∧
      (setting.remedyAll [slow, slow, slow] ∅).Ends Relapse.log thrice ∧
      ∃ ds, setting.Replays tracker [slow, slow, slow] Relapse.log thrice.contribution ds ∧
        Remedied.decisions ds = [false, true] := by
  obtain ⟨ds, replays⟩ := (replays_of_ends rfl).1 _ _ _ _ ends_remedyAll
  refine ⟨rfl, ends_remedyAll, ds, replays, ?_⟩
  rw [← replays.answers Overtaken.fleet.status rfl]
  decide

end FleetMend
