/-!
Points in time and lengths of time, both exact to the nanosecond.

* `Time.since?`: the time that has passed between two points, where it has passed.
* `Time.elapsed_of_ordinary`: outside of leap seconds it is the difference of the two.
* `Time.add_since?`: adding it to the earlier point gives the later.
-/

namespace FleetMend

/-- A length of time, in nanoseconds. -/
structure Span where
  nanos : Nat
deriving DecidableEq, Inhabited

/-- A point in time, in nanoseconds from the start of 1970, leap seconds not counted. -/
structure Time where
  nanos : Int
  /-- In a leap second the nanoseconds run on, and start once more in the second after it. -/
  inLeapSecond : Bool := false
deriving DecidableEq, Inhabited

namespace Span

instance : LE Span := ⟨fun a b => a.nanos ≤ b.nanos⟩
instance : LT Span := ⟨fun a b => a.nanos < b.nanos⟩
instance (a b : Span) : Decidable (a ≤ b) := inferInstanceAs (Decidable (a.nanos ≤ b.nanos))
instance (a b : Span) : Decidable (a < b) := inferInstanceAs (Decidable (a.nanos < b.nanos))

def zero : Span := ⟨0⟩

def ofMillis (n : Nat) : Span := ⟨n * 1000000⟩

def ofSecs (n : Nat) : Span := ⟨n * 1000000000⟩

/-- The whole milliseconds in a span. -/
def millis (s : Span) : Nat := s.nanos / 1000000

/-- The span without its part of a millisecond. -/
def truncated (s : Span) : Span := ofMillis s.millis

theorem le_def {a b : Span} : a ≤ b ↔ a.nanos ≤ b.nanos := Iff.rfl

theorem lt_def {a b : Span} : a < b ↔ a.nanos < b.nanos := Iff.rfl

@[simp] theorem millis_ofMillis (n : Nat) : (ofMillis n).millis = n := by
  simp [ofMillis, millis]

end Span

namespace Time

/-- A leap second taken for a repetition of the second before it. -/
def ordinaryNanos (t : Time) : Int := if t.inLeapSecond then t.nanos - 1000000000 else t.nanos

/-- The seconds of its day that have passed; a leap second is one with the second before it. -/
def secondOfDay (t : Time) : Int := t.ordinaryNanos / 1000000000 % 86400

/-- A leap second counts where the other point stands further on in its day than the one within it.
-/
def leapNanos (later earlier : Time) : Int :=
  if earlier.inLeapSecond ∧ earlier.secondOfDay < later.secondOfDay then 1000000000
  else if later.inLeapSecond ∧ later.secondOfDay < earlier.secondOfDay then -1000000000
  else 0

/-- The nanoseconds from `earlier` to `later`, below zero where `later` comes first. -/
def elapsed (later earlier : Time) : Int :=
  later.nanos - earlier.nanos + leapNanos later earlier

/-- The time from `earlier` to `later`; none where `later` comes first. -/
def since? (later earlier : Time) : Option Span :=
  if 0 ≤ later.elapsed earlier then some ⟨(later.elapsed earlier).toNat⟩ else none

/-- The point a length of time later; a leap second that is left behind takes no time. -/
def add (t : Time) (s : Span) : Time :=
  if t.inLeapSecond ∧ (t.nanos % 1000000000).toNat + s.nanos < 1000000000 then
    { t with nanos := t.nanos + s.nanos }
  else { nanos := t.ordinaryNanos + s.nanos }

/-- The point `n` milliseconds later. -/
def afterMillis (t : Time) (n : Nat) : Time := t.add (.ofMillis n)

@[simp] theorem elapsed_self (t : Time) : t.elapsed t = 0 := by
  simp [elapsed, leapNanos]

theorem since?_eq_none_iff {later earlier : Time} :
    later.since? earlier = none ↔ later.elapsed earlier < 0 := by
  simp only [since?]; split <;> simp <;> omega

/-- A length of time that counts as having passed, and is more than none, has passed. -/
theorem le_elapsed {later earlier : Time} {s : Span} (pos : Span.zero < s)
    (h : s ≤ (later.since? earlier).getD .zero) : s.nanos ≤ later.elapsed earlier := by
  rw [Span.lt_def] at pos
  rw [Span.le_def, since?] at h
  split at h
  · simp only [Option.getD_some] at h
    omega
  · rw [Option.getD_none] at h
    omega

theorem elapsed_of_ordinary {later earlier : Time} (hl : later.inLeapSecond = false)
    (he : earlier.inLeapSecond = false) : later.elapsed earlier = later.nanos - earlier.nanos := by
  simp [elapsed, leapNanos, hl, he]

theorem add_since? {later earlier : Time} {s : Span} (hl : later.inLeapSecond = false)
    (he : earlier.inLeapSecond = false) (h : later.since? earlier = some s) :
    earlier.add s = later := by
  simp only [since?, elapsed_of_ordinary hl he] at h
  split at h
  · obtain rfl := Option.some.inj h
    obtain ⟨l, _⟩ := later
    simp only [add, ordinaryNanos, he, Bool.false_eq_true, false_and, if_false]
    simp only at *
    subst hl
    simp only [Time.mk.injEq, and_true]
    omega
  · simp at h

example : (⟨3000000000, false⟩ : Time).since? ⟨1000000000, false⟩ = some (.ofSecs 2) := by decide
example : (⟨3000000000, false⟩ : Time).since? ⟨2000000000, true⟩ = some (.ofSecs 2) := by decide

end Time

end FleetMend
