import FleetMend.Cycle.Error
import FleetMend.Fleet.Basic

/-!
The store of fleets.  Every write gives the fleet its next version, so that a status is written only
where the version is still the one that was read.

* `Store.upsert`, `Store.updateSpec`, `Store.updateStatus`, `Store.remove`: the writes.
* `Store.modify_cases`: a change goes through, or leaves the store as it was.
* `Store.updateStatus_of_version_eq`, `Store.updateStatus_of_version_ne`: a status is written where
  the version is still the given one, and meets a conflict where it has moved on.
-/

namespace FleetMend

/-- The stored fleets by key. -/
abbrev Store := SortedMap FleetKey Fleet

namespace Store

def missing (key : FleetKey) : ControlError := .notFound "resource" key.text

/-- Stores a fleet under the version after that of the fleet it replaces, or the first. -/
def upsert (s : Store) (f : Fleet) : Fleet × Store :=
  let stored := { f with version := ((s.find? f.key).map (·.version)).getD 0 + 1 }
  (stored, s.insert f.key stored)

/-- Changes a stored fleet and its version; an error changes nothing. -/
def modify (s : Store) (key : FleetKey) (change : Fleet → Except ControlError Fleet) :
    Except ControlError Fleet × Store :=
  match s.find? key with
  | none => (.error (missing key), s)
  | some f =>
    match change f with
    | .error e => (.error e, s)
    | .ok g =>
      let stored := { g with version := f.version + 1 }
      (.ok stored, s.insert key stored)

/-- Puts another spec in place and keeps the status. -/
def updateSpec (s : Store) (key : FleetKey) (spec : FleetSpec) :
    Except ControlError Fleet × Store :=
  s.modify key fun f => .ok { f with spec }

/-- Puts another status in place and keeps the spec, if the version is still the given one. -/
def updateStatus (s : Store) (key : FleetKey) (version : Nat) (status : FleetStatus) :
    Except ControlError Fleet × Store :=
  s.modify key fun f =>
    if f.version = version then .ok { f with status } else .error (.conflict key version f.version)

def remove (s : Store) (key : FleetKey) : Option Fleet × Store := (s.find? key, s.erase key)

/-- A change goes through and counts the version on, or leaves the store as it was. -/
theorem modify_cases (s : Store) (key : FleetKey) (change : Fleet → Except ControlError Fleet) :
    (∃ e, s.modify key change = (.error e, s)) ∨
      ∃ f g, s.find? key = some f ∧ change f = .ok g ∧
        s.modify key change = (.ok { g with version := f.version + 1 },
          s.insert key { g with version := f.version + 1 }) := by
  cases hf : s.find? key with
  | none => exact .inl ⟨missing key, by simp only [modify, hf]⟩
  | some f =>
    cases hc : change f with
    | error e => exact .inl ⟨e, by simp only [modify, hf, hc]⟩
    | ok g => exact .inr ⟨f, g, rfl, hc, by simp only [modify, hf, hc]⟩

variable {s : Store} {key : FleetKey} {f : Fleet}

theorem updateSpec_of_find? (h : s.find? key = some f) (spec : FleetSpec) :
    s.updateSpec key spec =
      (.ok { f with spec, version := f.version + 1 },
        s.insert key { f with spec, version := f.version + 1 }) := by
  simp [updateSpec, modify, h]

theorem updateStatus_of_version_eq {version : Nat} (h : s.find? key = some f)
    (hv : f.version = version) (status : FleetStatus) :
    s.updateStatus key version status =
      (.ok { f with status, version := f.version + 1 },
        s.insert key { f with status, version := f.version + 1 }) := by
  simp [updateStatus, modify, h, hv]

theorem updateStatus_of_version_ne {version : Nat} (h : s.find? key = some f)
    (hv : f.version ≠ version) (status : FleetStatus) :
    s.updateStatus key version status = (.error (.conflict key version f.version), s) := by
  simp [updateStatus, modify, h, hv]

end Store

end FleetMend
