/-!
The signal for a shutdown.

* `Signal.send`: every sending gives the signal its next version.
* `Signal.news?`: what a receiver has not seen yet; what was sent before it subscribed counts as
  seen.
-/

namespace FleetMend

structure Signal where
  /-- A shutdown is wanted. -/
  value : Bool := false
  /-- How often the signal has been sent. -/
  version : Nat := 0
deriving DecidableEq, Inhabited

namespace Signal

def send (s : Signal) (value : Bool) : Signal := ⟨value, s.version + 1⟩

/-- A new receiver, by the version that it takes as seen. -/
def subscribe (s : Signal) : Nat := s.version

/-- The version that a receiver has not seen yet, if the signal has been sent since. -/
def news? (s : Signal) (seen : Nat) : Option Nat :=
  if seen < s.version then some s.version else none

@[simp] theorem news?_subscribe (s : Signal) : s.news? s.subscribe = none := by
  simp [news?, subscribe]

theorem news?_send {s : Signal} {seen : Nat} (h : seen ≤ s.version) (value : Bool) :
    (s.send value).news? seen = some (s.version + 1) := by
  simp [news?, send, Nat.lt_succ_of_le h]

end Signal

end FleetMend
