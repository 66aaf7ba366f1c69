import FleetMend.Data.SortedMap
import FleetMend.Fleet.Key

/-!
The gate before the cycles: one cycle of a fleet at a time, and so many cycles in all.

* `Gate.enter`, `Gate.apply`, `Gate.leave`: a call gets in line for the lock of its fleet, then for
  a permit, and gives up both.
* `Gate.hasLock`, `Gate.hasPermit`: whose turn it is.  The first in a line have what it is for, so
  that whoever comes first is served first.
-/

namespace FleetMend

/-- The lines before the locks of the fleets and before the permits, each call by its number. -/
structure Gate where
  /-- The number of permits. -/
  room : Nat
  locks : SortedMap FleetKey (List Nat) := ∅
  permits : List Nat := []

namespace Gate

variable (g : Gate)

/-- The line for the lock of a fleet. -/
def line (key : FleetKey) : List Nat := (g.locks.find? key).getD []

/-- A call gets in line for the lock. -/
def enter (key : FleetKey) (call : Nat) : Gate :=
  { g with locks := g.locks.insert key (g.line key ++ [call]) }

def hasLock (key : FleetKey) (call : Nat) : Bool := (g.line key).head? == some call

/-- A call gets in line for a permit. -/
def apply (call : Nat) : Gate := { g with permits := g.permits ++ [call] }

/-- The calls with a permit. -/
def admitted : List Nat := g.permits.take g.room

def hasPermit (call : Nat) : Bool := g.admitted.contains call

/-- A call gives up its permit and its lock. -/
def leave (key : FleetKey) (call : Nat) : Gate :=
  { g with
    permits := g.permits.erase call
    locks := g.locks.insert key ((g.line key).erase call) }

/-- The calls whose turn comes when a call leaves: the next for its permit, the next for its lock.
-/
def successors (key : FleetKey) (call : Nat) : List Nat :=
  let after := g.leave key call
  after.admitted.filter (fun c => !g.hasPermit c) ++ (after.line key).head?.toList

@[simp] theorem permits_enter (key : FleetKey) (call : Nat) :
    (g.enter key call).permits = g.permits := rfl

@[simp] theorem locks_apply (call : Nat) : (g.apply call).locks = g.locks := rfl

theorem length_admitted_le : g.admitted.length ≤ g.room := by
  rw [admitted, List.length_take]
  exact Nat.min_le_left _ _

theorem line_enter (key k : FleetKey) (call : Nat) :
    (g.enter key call).line k = if k = key then g.line key ++ [call] else g.line k := by
  simp only [line, enter, SortedMap.find?_insert]
  split <;> rfl

theorem line_leave (key k : FleetKey) (call : Nat) :
    (g.leave key call).line k = if k = key then (g.line key).erase call else g.line k := by
  simp only [line, leave, SortedMap.find?_insert]
  split <;> rfl

end Gate

end FleetMend
