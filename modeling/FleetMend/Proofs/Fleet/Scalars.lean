import FleetMend.Fleet.Basic

/-!
The sizes, spans and times that a fleet holds, and the fleet with its spans cut to milliseconds.

* `Fleet.scalars`, `Fleet.times`: all of them, from the spec and from the status, and the times
  alone.
* `Fleet.truncated`: each span without its part of a millisecond.
* `Fleet.truncated_eq`: a fleet whose spans are whole milliseconds is so already.
-/

namespace FleetMend

/-- A value that has a text or a number of its own in JSON. -/
inductive Scalar
  | size (q : Quantity)
  | span (s : Span)
  | time (t : Time)

def Scalar.time? : Scalar → Option Time
  | time t => some t
  | size _ | span _ => none

/-! ### All scalars -/

section All

variable {P : Scalar → Prop}

def AutoscaleSpec.scalars (s : AutoscaleSpec) : List Scalar := s.ceiling.toList.map .size

theorem AutoscaleSpec.forall_scalars {s : AutoscaleSpec} :
    (∀ x ∈ s.scalars, P x) ↔ ∀ q ∈ s.ceiling, P (.size q) := by
  simp only [scalars, List.forall_mem_map, Option.mem_toList, Option.mem_def]

def RegenerateSpec.scalars (s : RegenerateSpec) : List Scalar := [.span s.window]

theorem RegenerateSpec.forall_scalars {s : RegenerateSpec} :
    (∀ x ∈ s.scalars, P x) ↔ P (.span s.window) := List.forall_mem_singleton

def DriftSpec.scalars (s : DriftSpec) : List Scalar :=
  s.retention.toList.map .span ++ s.regenerate.toList.flatMap RegenerateSpec.scalars

theorem DriftSpec.forall_scalars {s : DriftSpec} : (∀ x ∈ s.scalars, P x) ↔
    (∀ d ∈ s.retention, P (.span d)) ∧ ∀ r ∈ s.regenerate, ∀ x ∈ r.scalars, P x := by
  simp only [scalars, List.forall_mem_append, List.forall_mem_map, List.forall_mem_flatMap,
    Option.mem_toList, Option.mem_def]

def HealSpec.scalars (s : HealSpec) : List Scalar :=
  s.autoscale.toList.flatMap AutoscaleSpec.scalars ++ s.drift.toList.flatMap DriftSpec.scalars

theorem HealSpec.forall_scalars {s : HealSpec} : (∀ x ∈ s.scalars, P x) ↔
    (∀ a ∈ s.autoscale, ∀ x ∈ a.scalars, P x) ∧ ∀ d ∈ s.drift, ∀ x ∈ d.scalars, P x := by
  simp only [scalars, List.forall_mem_append, List.forall_mem_flatMap, Option.mem_toList,
    Option.mem_def]

def FleetSpec.scalars (s : FleetSpec) : List Scalar := s.heal.toList.flatMap HealSpec.scalars

theorem FleetSpec.forall_scalars {s : FleetSpec} :
    (∀ x ∈ s.scalars, P x) ↔ ∀ h ∈ s.heal, ∀ x ∈ h.scalars, P x := by
  simp only [scalars, List.forall_mem_flatMap, Option.mem_toList, Option.mem_def]

def SyncInfo.scalars (s : SyncInfo) : List Scalar :=
  [.time s.observedAt, .time s.lastBlockAt, .span s.flatFor]

theorem SyncInfo.forall_scalars {s : SyncInfo} : (∀ x ∈ s.scalars, P x) ↔
    P (.time s.observedAt) ∧ P (.time s.lastBlockAt) ∧ P (.span s.flatFor) := by
  simp [scalars]

def ResizeRequest.scalars (r : ResizeRequest) : List Scalar := [.size r.size, .time r.requestedAt]

theorem ResizeRequest.forall_scalars {r : ResizeRequest} :
    (∀ x ∈ r.scalars, P x) ↔ P (.size r.size) ∧ P (.time r.requestedAt) := by
  simp [scalars]

def FailureLog.scalars (l : FailureLog) : List Scalar := l.times.map .time

theorem FailureLog.forall_scalars {l : FailureLog} :
    (∀ x ∈ l.scalars, P x) ↔ ∀ t ∈ l.times, P (.time t) := List.forall_mem_map

def PruningStatus.scalars (p : PruningStatus) : List Scalar := p.substituted.values.map .time

theorem PruningStatus.forall_scalars {p : PruningStatus} :
    (∀ x ∈ p.scalars, P x) ↔ ∀ t ∈ p.substituted.values, P (.time t) := List.forall_mem_map

def HealingStatus.scalars (h : HealingStatus) : List Scalar :=
  h.resizes.values.flatMap ResizeRequest.scalars ++ h.failures.values.flatMap FailureLog.scalars ++
    h.pruning.toList.flatMap PruningStatus.scalars

theorem HealingStatus.forall_scalars {h : HealingStatus} : (∀ x ∈ h.scalars, P x) ↔
    (∀ r ∈ h.resizes.values, ∀ x ∈ r.scalars, P x) ∧
      (∀ l ∈ h.failures.values, ∀ x ∈ l.scalars, P x) ∧
      ∀ p ∈ h.pruning, ∀ x ∈ p.scalars, P x := by
  simp only [scalars, List.forall_mem_append, List.forall_mem_flatMap, and_assoc,
    Option.mem_toList, Option.mem_def]

def FleetStatus.scalars (s : FleetStatus) : List Scalar :=
  s.syncInfo.values.flatMap SyncInfo.scalars ++ s.healing.scalars

theorem FleetStatus.forall_scalars {s : FleetStatus} : (∀ x ∈ s.scalars, P x) ↔
    (∀ i ∈ s.syncInfo.values, ∀ x ∈ i.scalars, P x) ∧ ∀ x ∈ s.healing.scalars, P x := by
  simp only [scalars, List.forall_mem_append, List.forall_mem_flatMap]

/-- The sizes, spans and times of the fleet. -/
def Fleet.scalars (f : Fleet) : List Scalar := f.spec.scalars ++ f.status.scalars

/-- The times of the fleet. -/
def Fleet.times (f : Fleet) : List Time := f.scalars.filterMap Scalar.time?

theorem Fleet.forall_scalars {f : Fleet} : (∀ x ∈ f.scalars, P x) ↔
    (∀ x ∈ f.spec.scalars, P x) ∧ ∀ x ∈ f.status.scalars, P x := List.forall_mem_append

end All

/-! ### Whole milliseconds -/

/-- A span of whole milliseconds; the other scalars have no part of one. -/
def Scalar.Whole : Scalar → Prop
  | span s => s.truncated = s
  | size _ | time _ => True

theorem Option.map_eq_self {α : Type} {f : α → α} {o : Option α} (h : ∀ a ∈ o, f a = a) :
    o.map f = o := (Option.map_congr h).trans Option.map_id'

def RegenerateSpec.truncated (s : RegenerateSpec) : RegenerateSpec :=
  { s with window := s.window.truncated }

theorem RegenerateSpec.truncated_eq {s : RegenerateSpec} (h : ∀ x ∈ s.scalars, x.Whole) :
    s.truncated = s := by
  have window : s.window.truncated = s.window := forall_scalars.1 h
  rw [truncated, window]

def DriftSpec.truncated (s : DriftSpec) : DriftSpec :=
  { s with
    retention := s.retention.map Span.truncated
    regenerate := s.regenerate.map RegenerateSpec.truncated }

theorem DriftSpec.truncated_eq {s : DriftSpec} (h : ∀ x ∈ s.scalars, x.Whole) :
    s.truncated = s := by
  obtain ⟨retention, regenerate⟩ := forall_scalars.1 h
  rw [truncated, Option.map_eq_self retention,
    Option.map_eq_self fun r hr => RegenerateSpec.truncated_eq (regenerate r hr)]

def HealSpec.truncated (s : HealSpec) : HealSpec :=
  { s with drift := s.drift.map DriftSpec.truncated }

theorem HealSpec.truncated_eq {s : HealSpec} (h : ∀ x ∈ s.scalars, x.Whole) :
    s.truncated = s := by
  obtain ⟨-, drift⟩ := forall_scalars.1 h
  rw [truncated, Option.map_eq_self fun d hd => DriftSpec.truncated_eq (drift d hd)]

def FleetSpec.truncated (s : FleetSpec) : FleetSpec :=
  { s with heal := s.heal.map HealSpec.truncated }

theorem FleetSpec.truncated_eq {s : FleetSpec} (h : ∀ x ∈ s.scalars, x.Whole) :
    s.truncated = s := by
  have heal := forall_scalars.1 h
  rw [truncated, Option.map_eq_self fun spec hs => HealSpec.truncated_eq (heal spec hs)]

def SyncInfo.truncated (s : SyncInfo) : SyncInfo := { s with flatFor := s.flatFor.truncated }

theorem SyncInfo.truncated_eq {s : SyncInfo} (h : ∀ x ∈ s.scalars, x.Whole) :
    s.truncated = s := by
  have flat : s.flatFor.truncated = s.flatFor := (forall_scalars.1 h).2.2
  rw [truncated, flat]

def FleetStatus.truncated (s : FleetStatus) : FleetStatus :=
  { s with syncInfo := s.syncInfo.mapValues SyncInfo.truncated }

theorem FleetStatus.truncated_eq {s : FleetStatus} (h : ∀ x ∈ s.scalars, x.Whole) :
    s.truncated = s := by
  obtain ⟨syncInfo, -⟩ := forall_scalars.1 h
  rw [truncated, SortedMap.mapValues_eq_self fun i hi => SyncInfo.truncated_eq (syncInfo i hi)]

/-- The fleet with each span cut to whole milliseconds. -/
def Fleet.truncated (f : Fleet) : Fleet :=
  { f with spec := f.spec.truncated, status := f.status.truncated }

theorem Fleet.truncated_eq {f : Fleet} (h : ∀ x ∈ f.scalars, x.Whole) : f.truncated = f := by
  obtain ⟨spec, status⟩ := forall_scalars.1 h
  rw [truncated, FleetSpec.truncated_eq spec, FleetStatus.truncated_eq status]

end FleetMend
