import FleetMend.Proofs.Scheduler.Order

/-!
The end of the discovery, in whatever order the tasks of a scheduler run.

* `Routine.Looks`: a discovery that has seen the signal up to a version looks for fleets until there
  is news.  `Routine.Stops`: once there is a shutdown, a routine waits for the workers and ends.
* `Ensemble.Steps.looks`: what the discovery has seen does not change while it looks for fleets.
* `Ensemble.Reachable.heeds`: a shutdown after the discovery has subscribed can always stop it.
  `Ensemble.shutdown_unheard`: a shutdown before it never does.
-/

namespace FleetMend

namespace Signal

variable {s : Signal} {seen : Nat}

theorem news?_eq_some (h : seen < s.version) : s.news? seen = some s.version := if_pos h

theorem news?_eq_none (h : s.version ≤ seen) : s.news? seen = none := if_neg (Nat.not_lt_of_le h)

theorem lt_of_news? {version : Nat} (h : s.news? seen = some version) : seen < s.version := by
  by_contra le
  rw [news?_eq_none (Nat.le_of_not_lt le)] at h
  cases h

end Signal

namespace Routine

/-- Once there is a shutdown, the routine waits for the workers and ends. -/
inductive Stops : Routine Stage → Prop where
  | told {next : Bool → Routine Stage} (h : Stops (next true)) :
    Stops (.ask (SchedulerQuery.cycle .shuttingDown) next)
  | join {next : Unit → Routine Stage} (h : ∀ x, Stops (next x)) :
    Stops (.ask SchedulerQuery.joinWorkers next)
  | finished : Stops (.done .finished)

/-- A discovery that has seen the signal up to the version looks for fleets until there is news. -/
inductive Looks (seen : Nat) : Routine Stage → Prop where
  | rest {instant : Nat} {next : Option Nat → Routine Stage} (tick : Looks seen (next none))
      (news : ∀ version, Stops (next (some version))) :
    Looks seen (.ask (SchedulerQuery.rest instant seen) next)
  | list {next : Except ControlError (List FleetKey) → Routine Stage}
      (h : ∀ x, Looks seen (next x)) : Looks seen (.ask SchedulerQuery.listKeys next)
  | start {keys : List FleetKey} {next : Unit → Routine Stage} (h : ∀ x, Looks seen (next x)) :
    Looks seen (.ask (SchedulerQuery.startWorkers keys) next)
  | next {interval instant : Nat} : Looks seen (.done (.discover interval instant seen))

theorem looks_discoveryRound (interval instant seen : Nat) :
    Looks seen (discoveryRound interval instant seen) := by
  refine .rest (.list ?_) fun version => .told (.join fun _ => .finished)
  intro keys
  cases keys with
  | ok keys => exact .start fun _ => .next
  | error e => exact .next

end Routine

namespace Ensemble

variable {o : Orchestrator} {e e' : Ensemble} {i seen : Nat}

/-- The discovery waits at its select, and has seen the signal up to the version. -/
def Selects (e : Ensemble) (i seen : Nat) : Prop :=
  ∃ interval instant w, e.actors.find? i = some ⟨discoveryRound interval instant seen, w⟩

/-- The discovery has left its loop and waits for the workers. -/
def Joins (e : Ensemble) (i : Nat) : Prop :=
  ∃ next w, e.actors.find? i = some ⟨.ask SchedulerQuery.joinWorkers next, w⟩

def Looks (e : Ensemble) (i seen : Nat) : Prop :=
  ∃ r w, e.actors.find? i = some ⟨r, w⟩ ∧ Routine.Looks seen r

/-- The task stops, or has ended. -/
def Stops (e : Ensemble) (i : Nat) : Prop :=
  ∀ r w, e.actors.find? i = some ⟨r, w⟩ → Routine.Stops r

theorem Selects.looks (h : e.Selects i seen) : e.Looks i seen := by
  obtain ⟨interval, instant, w, found⟩ := h
  exact ⟨_, w, found, Routine.looks_discoveryRound interval instant seen⟩

/-- While the discovery looks for fleets, it has seen no more than it had. -/
theorem Looks.seen_eq {seen' : Nat} (h : e.Looks i seen) (selects : e.Selects i seen') :
    seen' = seen := by
  obtain ⟨r, w, found, looks⟩ := h
  obtain ⟨interval, instant, w', found'⟩ := selects
  rw [found] at found'
  cases found'
  cases looks
  rfl

theorem Looks.not_joins (h : e.Looks i seen) : ¬e.Joins i := by
  obtain ⟨r, w, found, looks⟩ := h
  rintro ⟨next, w', found'⟩
  rw [found] at found'
  cases found'
  cases looks

theorem Stops.not_selects (h : e.Stops i) : ¬e.Selects i seen := by
  rintro ⟨interval, instant, w, found⟩
  cases h _ w found

/-! ### The signal -/

theorem Step.version_le (s : Step e e') : e.signal.version ≤ e'.signal.version := by
  obtain ⟨_, t⟩ | ext | ext := s.cases
  · exact Nat.le_of_eq (congrArg Signal.version t.extends.signal).symm
  · exact Nat.le_of_eq (congrArg Signal.version ext.signal).symm
  · rw [ext.signal]
    exact Nat.le_succ _

/-- Nothing but a shutdown is ever sent. -/
theorem Reachable.told (h : Reachable o e) (sent : 0 < e.signal.version) : e.signal.value = true := by
  obtain ⟨epoch, steps⟩ := h
  induction steps with
  | refl => cases sent
  | tail _ s ih =>
    obtain ⟨_, t⟩ | ext | ext := s.cases
    · rw [t.extends.signal] at sent ⊢
      exact ih sent
    · rw [ext.signal] at sent ⊢
      exact ih sent
    · rw [ext.signal]
      rfl

/-! ### One step -/

theorem Looks.of_find? (h : e.Looks i seen) {r : Routine Stage} {w : Option (Nat × Waiting)}
    (found : e.actors.find? i = some ⟨r, w⟩) : Routine.Looks seen r := by
  obtain ⟨_, _, there, looks⟩ := h
  rw [there] at found
  cases found
  exact looks

theorem looks_insert {m : SortedMap Nat Actor} {r : Routine Stage} (w : Option (Nat × Waiting))
    (eq : e.actors = m.insert i ⟨r, w⟩) (h : Routine.Looks seen r) : e.Looks i seen := by
  refine ⟨r, w, ?_, h⟩
  rw [eq, SortedMap.find?_insert_self]

theorem stops_insert {m : SortedMap Nat Actor} {r : Routine Stage} (w : Option (Nat × Waiting))
    (eq : e.actors = m.insert i ⟨r, w⟩) (h : Routine.Stops r) : e.Stops i := by
  intro r' w' found
  rw [eq, SortedMap.find?_insert_self] at found
  cases found
  exact h

theorem lt_of_attemptRest {instant version : Nat} {e₁ : Ensemble}
    (h : e.attemptRest instant seen = .answered (some version) e₁) : seen < e.signal.version := by
  unfold attemptRest at h
  split at h
  · cases h
  · split at h
    · next heard => exact Signal.lt_of_news? heard
    · cases h

theorem Turn.looks (t : Turn i e e') (h : e.Looks i seen) :
    e'.Looks i seen ∨ seen < e.signal.version ∧ e'.Stops i := by
  cases t with
  | settle found =>
    cases h.of_find? found with
    | @next interval instant =>
      rw [settleStage_of_some e i rfl]
      exact .inl (looks_insert none rfl (Routine.looks_discoveryRound _ _ _))
  | @answer e₁ q next w a found attempt =>
    cases h.of_find? found with
    | rest tick news =>
      cases a with
      | none => exact .inl (looks_insert none rfl tick)
      | some version =>
        exact .inr ⟨lt_of_attemptRest attempt, stops_insert none rfl (news version)⟩
    | list h => exact .inl (looks_insert none rfl (h a))
    | start h => exact .inl (looks_insert none rfl (h a))
  | @wait e₁ q next w v found attempt =>
    obtain ⟨turn, nextTurn, eq⟩ := e₁.keepWaiting_eq i (.ask q next) w v
    rw [eq]
    exact .inl (looks_insert _ rfl (h.of_find? found))
  | news found heard =>
    cases h.of_find? found with
    | rest tick news => exact .inr ⟨Signal.lt_of_news? heard, stops_insert none rfl (news _)⟩

theorem Turn.stops (t : Turn i e e') (h : e.Stops i) (told : e.signal.value = true) :
    e'.Stops i := by
  cases t with
  | settle found =>
    cases h _ _ found with
    | finished =>
      have ends : Stage.finished.next? e.orchestrator = none := rfl
      obtain ⟨ready, woken, outcomes, eq⟩ := e.settleStage_of_none i ends
      rw [eq]
      intro r w found
      rw [SortedMap.find?_erase, if_pos rfl] at found
      cases found
  | @answer e₁ q next w a found attempt =>
    cases h _ _ found with
    | told h =>
      cases attempt
      rw [told]
      exact stops_insert none rfl h
    | join h => exact stops_insert none rfl (h a)
  | @wait e₁ q next w v found attempt =>
    obtain ⟨turn, nextTurn, eq⟩ := e₁.keepWaiting_eq i (.ask q next) w v
    rw [eq]
    exact stops_insert _ rfl (h _ _ found)
  | news found => cases h _ _ found

/-! ### Every run -/

/-- What the discovery has seen does not change while it looks for fleets; with what it has not seen
it stops. -/
theorem Steps.looks (h : Reachable o e) (steps : Steps e e') (looks : e.Looks i seen) :
    e'.Looks i seen ∨ seen < e'.signal.version ∧ e'.Stops i := by
  have lt : i < e.nextActor := by
    obtain ⟨st, inOrder⟩ := h.inOrder
    obtain ⟨r, w, found, -⟩ := looks
    exact inOrder.lt found
  induction steps with
  | refl => exact .inl looks
  | @tail e₁ e₂ before s ih =>
    have turn_or := s.turn_or_find? (Nat.lt_of_lt_of_le lt (Steps.nextActor_le before))
    rcases ih with looks | ⟨sent, stops⟩
    · rcases turn_or with t | same
      · refine (t.looks looks).imp id ?_
        rintro ⟨sent, stops⟩
        exact ⟨Nat.lt_of_lt_of_le sent s.version_le, stops⟩
      · obtain ⟨r, w, found, looks⟩ := looks
        exact .inl ⟨r, w, same.trans found, looks⟩
    · refine .inr ⟨Nat.lt_of_lt_of_le sent s.version_le, ?_⟩
      rcases turn_or with t | same
      · exact t.stops stops ((h.steps before).told (Nat.zero_lt_of_lt sent))
      · intro r w found
        exact stops r w (same.symm.trans found)

/-- When the discovery subscribes, it comes to its select, and has seen the signal as it is. -/
theorem Turn.selects {interval instant : Nat} {w : Option (Nat × Waiting)} (t : Turn i e e')
    (found : e.actors.find? i =
      some ⟨.ask SchedulerQuery.subscribe (discoveryRound interval instant), w⟩) :
    e'.Selects i e'.signal.version := by
  cases t with
  | settle there | news there =>
    rw [found] at there
    cases there
  | answer there attempt =>
    rw [found] at there
    cases there
    cases attempt
    exact ⟨interval, instant, none, SortedMap.find?_insert_self _ _ _⟩
  | wait there attempt =>
    rw [found] at there
    cases there
    cases attempt

/-- With news of a shutdown, the discovery can leave its loop. -/
theorem Selects.exists_joins {version : Nat} (selects : e.Selects i seen)
    (news : e.signal.news? seen = some version) (told : e.signal.value = true) :
    ∃ e', Steps e e' ∧ e'.Joins i := by
  obtain ⟨interval, instant, w, found⟩ := selects
  have heard := Turn.news found news
  have found₁ := SortedMap.find?_insert_self e.actors i
    ⟨.ask (SchedulerQuery.cycle .shuttingDown) fun told : Bool =>
      if told then .ask SchedulerQuery.joinWorkers fun _ => .done .finished
      else .done (.discover interval instant version), none⟩
  have answered : Turn i { e with actors := _ } _ := .answer found₁ rfl
  refine ⟨_, .head (.turn heard) (.single (.turn answered)), fun _ => .done .finished, none, ?_⟩
  show (SortedMap.insert _ _ _).find? i = _
  rw [SortedMap.find?_insert_self, told]
  rfl

/-- From when the discovery has subscribed on, it can leave its loop after every shutdown, wherever it
waits at its select. -/
theorem Reachable.heeds {seen : Nat} (h : Reachable o e) (selects : e.Selects i e.signal.version)
    (steps : Steps e e') (sent : e.signal.version < e'.signal.version)
    (waits : e'.Selects i seen) :
    e'.signal.value = true ∧ e'.signal.news? seen = some e'.signal.version ∧
      ∃ e₂, Steps e' e₂ ∧ e₂.Joins i := by
  have told := (h.steps steps).told (Nat.zero_lt_of_lt sent)
  rcases Steps.looks h steps selects.looks with looks | ⟨-, stops⟩
  · obtain rfl := looks.seen_eq waits
    have news := Signal.news?_eq_some sent
    exact ⟨told, news, waits.exists_joins news told⟩
  · exact absurd waits stops.not_selects

/-- A discovery that has seen the signal as it is goes on looking for fleets until the signal is sent
again. -/
theorem Selects.not_stops {seen : Nat} (selects : e.Selects i seen) (h : Reachable o e)
    (all : e.signal.version ≤ seen) (steps : Steps e e') (same : e'.signal = e.signal) :
    (∃ a, e'.actors.find? i = some a) ∧ ¬e'.Joins i ∧
      ∀ seen', e'.Selects i seen' → e'.signal.news? seen' = none := by
  rw [← same] at all
  rcases Steps.looks h steps selects.looks with looks | ⟨sent, -⟩
  · refine ⟨?_, looks.not_joins, ?_⟩
    · obtain ⟨r, w, found, -⟩ := looks
      exact ⟨_, found⟩
    · intro seen' waits
      rw [looks.seen_eq waits]
      exact Signal.news?_eq_none all
  · exact absurd sent (Nat.not_lt_of_le all)

/-! ### A shutdown after the discovery has subscribed, and one before -/

namespace Discovery

def orchestrator : Orchestrator := .ofSettings {}

def interval : Nat := 30000

/-- The discovery starts where nothing has happened, and comes to its select. -/
def early : Ensemble := poll 2 0 ((Ensemble.start orchestrator ⟨0, false⟩).spawn (discover interval)).2

theorem reachable_early : Reachable orchestrator early :=
  ⟨_, .head (.discover _ interval) (steps_poll 2 0 _)⟩

theorem selects_early : early.Selects 0 0 := ⟨interval, 0, none, rfl⟩

theorem selects_shutdown : early.shutdown.Selects 0 0 :=
  ⟨interval, 0, none, early.extends_shutdown.find? 0 Nat.zero_lt_one nofun⟩

/-- A shutdown where nothing has happened. -/
def warned : Ensemble := { Ensemble.start orchestrator ⟨0, false⟩ with signal := ⟨true, 1⟩ }

theorem step_warned : Step (Ensemble.start orchestrator ⟨0, false⟩) warned := by
  have nobody (condition : Waiting → Bool) :
      waitingFor (Ensemble.start orchestrator ⟨0, false⟩) condition = [] := by
    simp [waitingFor, Ensemble.start, EmptyCollection.emptyCollection, SortedMap.empty]
  have sends := Step.shutdown (Ensemble.start orchestrator ⟨0, false⟩)
  rw [shutdown, nobody] at sends
  exact sends

/-- The discovery starts after a shutdown, and comes to its select. -/
def late : Ensemble := poll 2 0 (warned.spawn (discover interval)).2

theorem reachable_late : Reachable orchestrator late :=
  ⟨_, .head step_warned (.head (.discover _ interval) (steps_poll 2 0 _))⟩

theorem selects_late : late.Selects 0 1 := ⟨interval, 0, none, rfl⟩

end Discovery

theorem Reachable.heeds_early :
    Reachable Discovery.orchestrator Discovery.early ∧
      Discovery.early.Selects 0 Discovery.early.signal.version ∧
      Steps Discovery.early Discovery.early.shutdown ∧
      Discovery.early.signal.version < Discovery.early.shutdown.signal.version ∧
      Discovery.early.shutdown.Selects 0 0 ∧
      ∃ e₂, Steps Discovery.early.shutdown e₂ ∧ e₂.Joins 0 :=
  have sends : Steps Discovery.early Discovery.early.shutdown := .single (.shutdown _)
  have sent : Discovery.early.signal.version < Discovery.early.shutdown.signal.version := by
    rw [signal_shutdown]
    exact Nat.lt_succ_self _
  ⟨Discovery.reachable_early, Discovery.selects_early, sends, sent, Discovery.selects_shutdown,
    (Discovery.reachable_early.heeds Discovery.selects_early sends sent
      Discovery.selects_shutdown).2.2⟩

/-- After a shutdown before its start, the discovery looks for fleets for ever, unless there is
another shutdown. -/
theorem shutdown_unheard :
    ∃ o e i seen, Reachable o e ∧ e.signal.value = true ∧ e.Selects i seen ∧
      ∀ e', Steps e e' → e'.signal = e.signal →
        (∃ a, e'.actors.find? i = some a) ∧ ¬e'.Joins i ∧
          ∀ seen', e'.Selects i seen' → e'.signal.news? seen' = none := by
  refine ⟨_, Discovery.late, 0, 1, Discovery.reachable_late, rfl, Discovery.selects_late, ?_⟩
  intro e' steps same
  exact Discovery.selects_late.not_stops Discovery.reachable_late (Nat.le_refl _) steps same

end Ensemble

end FleetMend
