import FleetMend.Proofs.Pruning.Bookkeeping
import FleetMend.Proofs.Pruning.Evidence

/-!
The trail of events that pruning leaves, and the listings behind it.

* `PruningTrail`: steps of pruning one after the other, each with its calls, and each followed by
  its changes.
* `milestones`: the events of a trail that tell of something achieved.
* `PruningTrail.grammar`: they go round and round, a pod found, pruned and restored; before a pod is
  pruned it was seen to be gone, and when it is restored it is seen to be back.
* `PruningTrail.pruned_or_absent`: a pod counts as pruned once its pruning pod has ended or is not
  listed.  `PruningTrail.pruned_unseen`: so it can be that no pruning pod was ever seen.
-/

namespace FleetMend

/-- A step of pruning: its calls, each with its reply, and what it came to. -/
structure PruningTurn where
  log : Errand.Log
  outcome : StepOutcome

namespace PruningTurn

def Tells (t : PruningTurn) (e : Event) : Prop := e ∈ t.outcome.events

/-- A listing that the step got fulfils a condition. -/
def Shows (t : PruningTurn) (condition : List Pod → Prop) : Prop :=
  ∃ pods, t.log.Lists pods ∧ condition pods

end PruningTurn

/-- The steps of a run and the status that they left.  The fleet, the spec, the waiting times and
the clock may be others at every step; only the status is handed on. -/
inductive PruningTrail : List PruningTurn → FleetStatus → Prop where
  | start {s : FleetStatus} (new : s.healing.pruning = none) : PruningTrail [] s
  | turn {turns : List PruningTurn} {f : Fleet} {timing : PruningTiming} {spec : PruningSpec}
    {now : Time} {t : PruningTurn} (trail : PruningTrail turns f.status)
    (step : (pruneStep timing f spec now).Ends t.log t.outcome) :
    PruningTrail (turns ++ [t]) (t.outcome.patch.apply f.status)

/-! ### Milestones -/

/-- The event tells of a stage of pruning that is over. -/
def Event.isMilestone : Event → Bool
  | candidateFound _ | pruningComplete _ | podRestored _ => true
  | _ => false

/-- The milestones of the steps, in order. -/
def milestones (turns : List PruningTurn) : List Event :=
  turns.flatMap fun t => t.outcome.events.filter Event.isMilestone

/-- What is told where the pods have been pruned, one after the other. -/
def rounds (pods : List String) : List Event :=
  pods.flatMap fun p => [.candidateFound p, .pruningComplete [p], .podRestored [p]]

theorem Event.isMilestone_of_warning {e : Event} (h : e.severity = .warning) :
    e.isMilestone = false := by
  cases e <;> first | rfl | cases h

theorem milestones_append (turns more : List PruningTurn) :
    milestones (turns ++ more) = milestones turns ++ milestones more :=
  List.flatMap_append

theorem milestones_singleton (t : PruningTurn) :
    milestones [t] = t.outcome.events.filter Event.isMilestone :=
  List.flatMap_singleton _ _

theorem rounds_append (pods more : List String) :
    rounds (pods ++ more) = rounds pods ++ rounds more :=
  List.flatMap_append

/-! ### What the trail says about the status -/

/-- After rounds that are over, a pod has been taken out; the turns since tell of nothing more. -/
def Begun (turns : List PruningTurn) (pod : String) (since : List PruningTurn) : Prop :=
  ∃ before t past, turns = before ++ t :: since ∧ milestones before = rounds past ∧
    t.outcome.events = [.candidateFound pod] ∧ milestones since = []

/-- The trail is one that leads to the phase, with the pods as candidates. -/
def TrailKept (turns : List PruningTurn) (phase : PruningPhase) (pods : List String) : Prop :=
  match phase with
  | .findingCandidate => ∃ past, milestones turns = rounds past
  | .waitingForPodReplaced => ∃ pod since, pods = [pod] ∧ Begun turns pod since
  | .waitingForComplete => ∃ pod since, pods = [pod] ∧ Begun turns pod since ∧
      ∃ t ∈ since, t.Shows fun listed => isListed listed pod = false
  | .restoringPod | .confirmPodRestoration => ∃ pod past, pods = [pod] ∧
      milestones turns = rounds past ++ [.candidateFound pod, .pruningComplete [pod]]

section

variable {turns : List PruningTurn} {t : PruningTurn} {phase : PruningPhase}
  {pods : List String} {pod : String} {since : List PruningTurn}

theorem Begun.append (h : Begun turns pod since) (quiet : milestones [t] = []) :
    Begun (turns ++ [t]) pod (since ++ [t]) := by
  obtain ⟨before, first, past, rfl, hb, hf, hs⟩ := h
  refine ⟨before, first, past, by simp, hb, hf, ?_⟩
  rw [milestones_append, hs, quiet]
  rfl

theorem Begun.milestones_eq (h : Begun turns pod since) :
    ∃ past, milestones turns = rounds past ++ [.candidateFound pod] := by
  obtain ⟨before, first, past, rfl, hb, hf, hs⟩ := h
  refine ⟨past, ?_⟩
  rw [milestones_append, ← List.singleton_append, milestones_append, milestones_singleton, hb, hf,
    hs]
  rfl

theorem Begun.isPrefix (h : Begun turns pod since) :
    ∃ past, milestones turns <+: rounds past := by
  obtain ⟨past, told⟩ := h.milestones_eq
  refine ⟨past ++ [pod], [.pruningComplete [pod], .podRestored [pod]], ?_⟩
  rw [told, rounds_append]
  simp [rounds]

/-- A step that tells of nothing achieved, and stays in its phase, keeps the trail. -/
theorem TrailKept.quiet (kept : TrailKept turns phase pods) (quiet : milestones [t] = []) :
    TrailKept (turns ++ [t]) phase pods := by
  have same : milestones (turns ++ [t]) = milestones turns := by
    rw [milestones_append, quiet, List.append_nil]
  cases phase with
  | findingCandidate | restoringPod | confirmPodRestoration =>
    unfold TrailKept
    rw [same]
    exact kept
  | waitingForPodReplaced =>
    obtain ⟨pod, since, only, begun⟩ := kept
    exact ⟨pod, since ++ [t], only, begun.append quiet⟩
  | waitingForComplete =>
    obtain ⟨pod, since, only, begun, u, hu, gone⟩ := kept
    exact ⟨pod, since ++ [t], only, begun.append quiet, u, List.mem_append_left _ hu, gone⟩

/-- Whatever the phase, the milestones are the beginning of a sequence of rounds. -/
theorem TrailKept.isPrefix (kept : TrailKept turns phase pods) :
    ∃ past, milestones turns <+: rounds past := by
  cases phase with
  | findingCandidate =>
    obtain ⟨past, told⟩ := kept
    exact ⟨past, told ▸ List.prefix_rfl⟩
  | waitingForPodReplaced =>
    obtain ⟨pod, since, -, begun⟩ := kept
    exact begun.isPrefix
  | waitingForComplete =>
    obtain ⟨pod, since, -, begun, -⟩ := kept
    exact begun.isPrefix
  | restoringPod | confirmPodRestoration =>
    obtain ⟨pod, past, -, told⟩ := kept
    refine ⟨past ++ [pod], [.podRestored [pod]], ?_⟩
    rw [told, rounds_append]
    simp [rounds]

/-! ### What a step adds -/

/-- No longer to substitute pods leaves the candidates. -/
theorem candidates_clearSubstitutions (keys : List String) (s : FleetStatus) :
    (Patch.apply (keys.map .clearSubstitution) s).healing.pruningOrNew.candidates =
      s.healing.pruningOrNew.candidates := by
  induction keys generalizing s with
  | nil => rfl
  | cons key keys ih =>
    rw [List.map_cons, Patch.apply_cons, ih, StatusOp.pruningOrNew_clearSubstitution]

variable {timing : PruningTiming} {f : Fleet} {spec : PruningSpec} {now : Time}

/-- A step makes the trail one that leads to where its changes lead. -/
theorem TrailKept.turn (kept : TrailKept turns f.status.pruningPhase f.candidatePods)
    (books : f.status.BooksKept) (step : (pruneStep timing f spec now).Ends t.log t.outcome) :
    TrailKept (turns ++ [t]) (t.outcome.patch.apply f.status).pruningPhase
      (t.outcome.patch.apply f.status).healing.pruningOrNew.pods := by
  have advance := Advance.of_ends step
  have told (more : List Event) (he : t.outcome.events = more) :
      milestones [t] = more.filter Event.isMilestone := he ▸ milestones_singleton t
  generalize hp : t.outcome.patch = patch at advance ⊢
  generalize he : t.outcome.events = events at advance
  cases advance with
  | stays warned =>
    have quiet : milestones [t] = [] := by
      rw [told _ he, List.filter_eq_nil_iff]
      exact fun e hm => by simp [Event.isMilestone_of_warning (warned e hm).1]
    rw [FleetStatus.pruningPhase, pruningOrNew_opening]
    exact kept.quiet quiet
  | takesOut pod now phase =>
    rw [phase] at kept
    obtain ⟨past, before⟩ := kept
    -- While pruning looks for a candidate there is none, so the one taken out is the only one.
    have fresh := books.pruningOrNew_opening phase
    have only : (Patch.apply (opening f.status ++
        [takeOut pod now, .setPhase .waitingForPodReplaced]) f.status).healing.pruningOrNew.pods =
          [pod.name] := by
      rw [Patch.apply_append]
      show ((SortedMap.insert _ _ _).values.map Candidate.pod) = _
      rw [fresh]
      rfl
    rw [only, Patch.apply_append]
    exact ⟨pod.name, [], rfl, turns, t, past, rfl, before, he, rfl⟩
  | replaced phase =>
    rw [phase] at kept
    obtain ⟨pod, since, only, begun⟩ := kept
    obtain ⟨pods, lists, gone⟩ := exists_listing_of_replaced step phase hp
    have quiet : milestones [t] = [] := told [] he
    refine ⟨pod, since ++ [t], only, begun.append quiet, t, by simp, pods, lists, ?_⟩
    exact gone pod (by simp [only])
  | pruned phase =>
    rw [phase] at kept
    obtain ⟨pod, since, only, begun, -⟩ := kept
    obtain ⟨past, before⟩ := begun.milestones_eq
    refine ⟨pod, past, only, ?_⟩
    rw [milestones_append, before, told _ he, only]
    simp [Event.isMilestone]
  | @signalled s phase registered =>
    rw [phase] at kept
    obtain ⟨pod, past, only, before⟩ := kept
    have quiet : milestones [t] = [] := told [] he
    have same : (Patch.apply (s.candidates.keys.map .clearSubstitution ++
        [.setPhase .confirmPodRestoration]) f.status).healing.pruningOrNew.pods =
          f.candidatePods := by
      rw [Patch.apply_append]
      exact congrArg (fun m => m.values.map Candidate.pod) (candidates_clearSubstitutions ..)
    rw [same, Patch.apply_append]
    exact ⟨pod, past, only, by rw [milestones_append, quiet, List.append_nil, before]⟩
  | restored phase =>
    rw [phase] at kept
    obtain ⟨pod, past, only, before⟩ := kept
    refine ⟨past ++ [pod], ?_⟩
    rw [milestones_append, before, told _ he, only, rounds_append]
    simp [Event.isMilestone, rounds]
  | reset phase lost =>
    obtain ⟨p, hp⟩ := books.registered phase
    rw [lost] at hp
    cases hp

/-- Only a step that waits for the end of pruning tells of it. -/
theorem Advance.of_pruningComplete {patch : Patch} {events : List Event}
    (a : Advance f patch events) {ps : List String} (tells : .pruningComplete ps ∈ events) :
    f.status.pruningPhase = .waitingForComplete ∧ ps = f.candidatePods := by
  cases a with
  | stays warned => cases (warned _ tells).1
  | pruned phase => exact ⟨phase, Event.pruningComplete.inj (List.mem_singleton.1 tells)⟩
  | takesOut | restored | reset => cases List.mem_singleton.1 tells
  | replaced | signalled => cases tells

/-- Only a step that waits for the pods to come back tells that they are. -/
theorem Advance.of_podRestored {patch : Patch} {events : List Event}
    (a : Advance f patch events) {ps : List String} (tells : .podRestored ps ∈ events) :
    f.status.pruningPhase = .confirmPodRestoration ∧ ps = f.candidatePods := by
  cases a with
  | stays warned => cases (warned _ tells).1
  | restored phase => exact ⟨phase, Event.podRestored.inj (List.mem_singleton.1 tells)⟩
  | takesOut | pruned | reset => cases List.mem_singleton.1 tells
  | replaced | signalled => cases tells

/-! ### The run -/

namespace PruningTrail

variable {s : FleetStatus}

theorem kept (trail : PruningTrail turns s) :
    s.BooksKept ∧ TrailKept turns s.pruningPhase s.healing.pruningOrNew.pods := by
  induction trail with
  | start new =>
    refine ⟨fun p hp => by simp [new] at hp, ?_⟩
    rw [FleetStatus.pruningPhase, HealingStatus.pruningOrNew, new]
    exact ⟨[], rfl⟩
  | turn _ step ih => exact ⟨(Advance.of_ends step).booksKept ih.1, ih.2.turn ih.1 step⟩

/-- Every step of a trail is taken on the status that the earlier ones left. -/
theorem cut {pre post : List PruningTurn} {y : PruningTurn}
    (trail : PruningTrail (pre ++ y :: post) s) :
    ∃ f timing spec now, PruningTrail pre f.status ∧
      (pruneStep timing f spec now).Ends y.log y.outcome := by
  generalize hturns : pre ++ y :: post = turns at trail
  induction trail generalizing post with
  | start => simp at hturns
  | @turn turns f timing spec now t trail step ih =>
    rcases List.eq_nil_or_concat post with rfl | ⟨post, last, rfl⟩
    · obtain ⟨rfl, hy⟩ := List.append_inj' hturns rfl
      obtain rfl := List.head_eq_of_cons_eq hy
      exact ⟨f, timing, spec, now, trail, step⟩
    · rw [List.concat_eq_append, ← List.cons_append, ← List.append_assoc] at hturns
      exact ih (List.append_inj' hturns rfl).1

/-- The step that tells of the end of pruning follows on the one that took the pod out, with a
listing without the pod in between, and has a listing itself. -/
theorem of_pruningComplete {pre post : List PruningTurn} {y : PruningTurn} {ps : List String}
    (trail : PruningTrail (pre ++ y :: post) s) (tells : y.Tells (.pruningComplete ps)) :
    ∃ pod since, ps = [pod] ∧ Begun pre pod since ∧
      (∃ z ∈ since, z.Shows fun listed => isListed listed pod = false) ∧
      y.Shows fun listed => isPruned listed pod = true := by
  obtain ⟨f, timing, spec, now, before, step⟩ := trail.cut
  obtain ⟨phase, rfl⟩ := (Advance.of_ends step).of_pruningComplete tells
  have kept := before.kept.2
  rw [phase] at kept
  obtain ⟨pod, since, only, begun, gone⟩ := kept
  obtain ⟨listed, lists, ended⟩ := exists_listing_of_pruned step phase tells
  refine ⟨pod, since, only, begun, gone, listed, lists, ended pod ?_⟩
  rw [show f.candidatePods = [pod] from only]
  exact List.mem_singleton_self pod

/-- What a fleet goes through that gets to see the replies, one after the other. -/
def play (f : Fleet) (spec : PruningSpec) (now : Time) : List Sight → List PruningTurn × FleetStatus
  | [] => ([], f.status)
  | x :: rest =>
    let t : PruningTurn := ⟨x.asked {} f, x.outcome {} f spec now⟩
    let (turns, s) := play { f with status := t.outcome.patch.apply f.status } spec now rest
    (t :: turns, s)

theorem of_play {f : Fleet} {spec : PruningSpec} {now : Time} (sights : List Sight)
    (trail : PruningTrail turns f.status) :
    PruningTrail (turns ++ (play f spec now sights).1) (play f spec now sights).2 := by
  induction sights generalizing f turns with
  | nil => simpa [play] using trail
  | cons x rest ih =>
    have next := ih (f := { f with status := (x.outcome {} f spec now).patch.apply f.status })
      (trail.turn (t := ⟨x.asked {} f, x.outcome {} f spec now⟩)
        (ends_pruneStep_iff.2 ⟨x, rfl, rfl⟩))
    rw [List.append_assoc] at next
    exact next

/-- What the steps list is among what they get to see. -/
theorem mem_of_play {f : Fleet} {spec : PruningSpec} {now : Time} {sights : List Sight}
    {z : PruningTurn} (hz : z ∈ (play f spec now sights).1) {listed : List Pod}
    (lists : z.log.Lists listed) : ∃ x ∈ sights, x.pods = some (.ok listed) := by
  induction sights generalizing f with
  | nil => cases hz
  | cons x rest ih =>
    rcases List.mem_cons.1 hz with rfl | hz
    · exact ⟨x, List.mem_cons_self, Sight.pods_of_lists lists⟩
    · obtain ⟨u, hu, hp⟩ := ih hz
      exact ⟨u, List.mem_cons_of_mem _ hu, hp⟩

end PruningTrail

end

/-! ### A round -/

namespace Round

def pod : Pod := ⟨"osmosis-0", "default", 0, "data-osmosis-0", none, []⟩

/-- The pruning pod, when it has ended. -/
def pruner : Pod :=
  { pod with name := prunerName pod.name, containers := [⟨"pruner", .terminated 0⟩] }

def fleet : Fleet := { key := ⟨"default", "osmosis"⟩, spec := { replicas := 1 } }

def spec : PruningSpec := { trigger := 80, minAvailable := some 0 }

def search : Sight where
  usage := some (.ok [⟨"data-osmosis-0", 85, default⟩])
  items := some [⟨pod, some 100, some true, none, ⟨0, false⟩⟩]
  pods := none

def lists (pods : List Pod) : Sight := ⟨none, none, some (.ok pods)⟩

/-- The steps that get to see the replies. -/
def played (sights : List Sight) : List PruningTurn :=
  (PruningTrail.play fleet spec ⟨0, false⟩ sights).1

def left (sights : List Sight) : FleetStatus :=
  (PruningTrail.play fleet spec ⟨0, false⟩ sights).2

theorem trail (sights : List Sight) : PruningTrail (played sights) (left sights) :=
  PruningTrail.of_play sights (.start rfl : PruningTrail [] fleet.status)

/-- The step that gets to see a reply after others. -/
def last (sights : List Sight) (x : Sight) : PruningTurn :=
  let f : Fleet := { fleet with status := left sights }
  ⟨x.asked {} f, x.outcome {} f spec ⟨0, false⟩⟩

end Round

/-! ### What every trail tells -/

namespace PruningTrail

variable {turns : List PruningTurn} {s : FleetStatus}

/-- **The grammar of the trail.**  From a status without pruning, whatever the steps get to see, the
milestones go round and round: a pod is found, that pod is pruned, that pod is restored, and on with
the next.  Between the step that finds a pod and the one that tells that it is pruned, a listing did
not show the pod; the step that tells that it is restored has a listing that shows it. -/
theorem grammar (trail : PruningTrail turns s) :
    (∃ pods, milestones turns <+: rounds pods) ∧
      (∀ pre y post ps, turns = pre ++ y :: post → y.Tells (.pruningComplete ps) →
        ∃ pod before x since, ps = [pod] ∧ pre = before ++ x :: since ∧
          x.Tells (.candidateFound pod) ∧ milestones since = [] ∧
          ∃ z ∈ since, z.Shows fun listed => isListed listed pod = false) ∧
      ∀ y ∈ turns, ∀ ps, y.Tells (.podRestored ps) →
        ∃ pod, ps = [pod] ∧ y.Shows fun listed => isListed listed pod = true := by
  refine ⟨trail.kept.2.isPrefix, ?_, ?_⟩
  · rintro pre y post ps rfl tells
    obtain ⟨pod, since, rfl, ⟨before, x, _, rfl, -, found, quiet⟩, gone, -⟩ :=
      trail.of_pruningComplete tells
    refine ⟨pod, before, x, since, rfl, rfl, ?_, quiet, gone⟩
    rw [PruningTurn.Tells, found]
    exact List.mem_singleton_self _
  · rintro y hy ps tells
    obtain ⟨pre, post, rfl⟩ := List.append_of_mem hy
    obtain ⟨f, timing, spec, now, before, step⟩ := trail.cut
    obtain ⟨phase, rfl⟩ := (Advance.of_ends step).of_podRestored tells
    have kept := before.kept.2
    rw [phase] at kept
    obtain ⟨pod, past, only, -⟩ := kept
    obtain ⟨listed, lists, back⟩ := exists_listing_of_restored step phase tells
    refine ⟨pod, only, listed, lists, back pod ?_⟩
    rw [show f.candidatePods = [pod] from only]
    exact List.mem_singleton_self pod

open Round in
/-- The pod gives way to its pruning pod, which ends and gives way to the pod. -/
theorem grammar_whole :
    let whole := played [search, lists [], lists [pruner], default, lists [pod]]
    PruningTrail whole (left [search, lists [], lists [pruner], default, lists [pod]]) ∧
      milestones whole = rounds ["osmosis-0"] ∧
      (∃ pods, milestones whole <+: rounds pods) ∧
      (∀ pre y post ps, whole = pre ++ y :: post → y.Tells (.pruningComplete ps) →
        ∃ pod before x since, ps = [pod] ∧ pre = before ++ x :: since ∧
          x.Tells (.candidateFound pod) ∧ milestones since = [] ∧
          ∃ z ∈ since, z.Shows fun listed => isListed listed pod = false) ∧
      ∀ y ∈ whole, ∀ ps, y.Tells (.podRestored ps) →
        ∃ pod, ps = [pod] ∧ y.Shows fun listed => isListed listed pod = true :=
  ⟨trail _, by decide +kernel, grammar (trail _)⟩

/-- **Pruned, or not there.**  When a pod is told to be pruned, the listing of that step shows its
pruning pod as ended, or does not show it.  So of the listings since the pod was taken out at least
one showed the pruning pod; or none did, and then one before that step showed neither of the two,
and that of the step does not show the pruning pod either. -/
theorem pruned_or_absent {pre post : List PruningTurn} {y : PruningTurn} {ps : List String}
    (trail : PruningTrail (pre ++ y :: post) s) (tells : y.Tells (.pruningComplete ps)) :
    ∃ pod before x since, ps = [pod] ∧ pre = before ++ x :: since ∧
      x.Tells (.candidateFound pod) ∧ milestones since = [] ∧
      (y.Shows fun listed => isPruned listed pod = true) ∧
      ((∃ z ∈ since ++ [y], z.Shows fun listed => isListed listed (prunerName pod) = true) ∨
        (∃ z ∈ since, z.Shows fun listed =>
          isListed listed pod = false ∧ isListed listed (prunerName pod) = false) ∧
          y.Shows fun listed => isListed listed (prunerName pod) = false) := by
  obtain ⟨pod, since, rfl, ⟨before, x, _, rfl, -, found, quiet⟩, gone, ended⟩ :=
    trail.of_pruningComplete tells
  refine ⟨pod, before, x, since, rfl, rfl, ?_, quiet, ended, ?_⟩
  · rw [PruningTurn.Tells, found]
    exact List.mem_singleton_self _
  by_cases seen : ∃ z ∈ since ++ [y],
      z.Shows fun listed => isListed listed (prunerName pod) = true
  · exact .inl seen
  · have unseen : ∀ z ∈ since ++ [y], ∀ listed, z.log.Lists listed →
        isListed listed (prunerName pod) = false := fun z hz listed lists =>
      Bool.eq_false_iff.2 fun shown => seen ⟨z, hz, listed, lists, shown⟩
    obtain ⟨z, hz, listed, lists, away⟩ := gone
    obtain ⟨last, lasts, -⟩ := ended
    exact .inr ⟨⟨z, hz, listed, lists, away, unseen z (by simp [hz]) listed lists⟩,
      last, lasts, unseen y (by simp) last lasts⟩

open Round in
/-- The pruning pod has ended when the pod counts as pruned. -/
theorem pruned_or_absent_ended :
    let y := last [search, lists []] (lists [pruner])
    PruningTrail (played [search, lists []] ++ y :: []) (left [search, lists [], lists [pruner]]) ∧
      y.Tells (.pruningComplete ["osmosis-0"]) ∧
      ∃ pod before x since, ["osmosis-0"] = [pod] ∧
        played [search, lists []] = before ++ x :: since ∧ x.Tells (.candidateFound pod) ∧
        milestones since = [] ∧ (y.Shows fun listed => isPruned listed pod = true) ∧
        ((∃ z ∈ since ++ [y], z.Shows fun listed => isListed listed (prunerName pod) = true) ∨
          (∃ z ∈ since, z.Shows fun listed =>
            isListed listed pod = false ∧ isListed listed (prunerName pod) = false) ∧
            y.Shows fun listed => isListed listed (prunerName pod) = false) := by
  intro y
  have run : PruningTrail (played [search, lists []] ++ y :: []) _ :=
    trail [search, lists [], lists [pruner]]
  have tells : y.Tells (.pruningComplete ["osmosis-0"]) := List.mem_singleton_self _
  exact ⟨run, tells, run.pruned_or_absent tells⟩

open Round in
/-- **No pruning pod.**  A pod may be told to be pruned although no listing since it was taken out
has shown its pruning pod. -/
theorem pruned_unseen :
    ¬∀ (pre post : List PruningTurn) (y : PruningTurn) (s : FleetStatus) (pod : String),
      PruningTrail (pre ++ y :: post) s → y.Tells (.pruningComplete [pod]) →
        ∃ before x since, pre = before ++ x :: since ∧ x.Tells (.candidateFound pod) ∧
          ∃ z ∈ since ++ [y], z.Shows fun listed => isListed listed (prunerName pod) = true := by
  intro seen
  obtain ⟨before, x, since, hpre, -, z, hz, listed, hl, shown⟩ :=
    seen (played [search, lists []]) [] (last [search, lists []] (lists [])) _ "osmosis-0"
      (trail [search, lists [], lists []]) (List.mem_singleton_self _)
  have hm : z ∈ played [search, lists [], lists []] := by
    show z ∈ played [search, lists []] ++ [last [search, lists []] (lists [])]
    rw [hpre, List.append_assoc]
    exact List.mem_append_right _ (List.mem_cons_of_mem _ hz)
  obtain ⟨u, hu, hp⟩ := mem_of_play hm hl
  -- The listings are empty, and the search lists nothing.
  have none : listed = [] := by
    simp only [List.mem_cons, List.not_mem_nil, or_false] at hu
    rcases hu with rfl | rfl | rfl
    · cases hp
    · exact (Except.ok.inj (Option.some.inj hp)).symm
    · exact (Except.ok.inj (Option.some.inj hp)).symm
  rw [none] at shown
  cases shown

end PruningTrail

end FleetMend
