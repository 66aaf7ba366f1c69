import FleetMend.Text.Digits

/-!
Storage sizes.

* `Quantity`: a number of bytes and the notation it is written in; the notation does not count when
  two sizes are compared.
* `Quantity.checkedAdd`: a sum that stays in the range of a signed word of 64 bits.
-/

namespace FleetMend

/-- How a size is written: with powers of 1024, with powers of 1000, or with a power of ten. -/
inductive Form
  | binary
  | decimal
  | exponent
deriving DecidableEq

/-- A size in bytes. -/
structure Quantity where
  value : Int64
  form : Form

/-- The number as a signed word of 64 bits, where it is in range. -/
def int64OfInt? (n : Int) : Option Int64 :=
  if fitsInt64 n then some (Int64.ofInt n) else none

/-- A word stands for the number that it holds, and no other number is in range. -/
theorem int64OfInt?_eq_some_iff {n : Int} {v : Int64} : int64OfInt? n = some v ↔ v.toInt = n := by
  have hlow := v.le_toInt
  have hhigh := v.toInt_lt
  constructor
  · intro h
    unfold int64OfInt? at h
    split at h
    · next hn =>
      rw [fitsInt64_iff] at hn
      obtain rfl := Option.some.inj h
      exact Int64.toInt_ofInt_of_le (by omega) (by omega)
    · cases h
  · rintro rfl
    have hv : fitsInt64 v.toInt = true := fitsInt64_iff.2 ⟨by omega, by omega⟩
    rw [int64OfInt?, if_pos hv, Int64.ofInt_toInt]

namespace Quantity

/-- Two sizes are the same where they have the same number of bytes, however they are written. -/
instance : BEq Quantity := ⟨fun a b => a.value == b.value⟩

instance : LE Quantity := ⟨fun a b => a.value ≤ b.value⟩
instance : LT Quantity := ⟨fun a b => a.value < b.value⟩
instance (a b : Quantity) : Decidable (a ≤ b) := inferInstanceAs (Decidable (a.value ≤ b.value))
instance (a b : Quantity) : Decidable (a < b) := inferInstanceAs (Decidable (a.value < b.value))

def zero : Quantity := ⟨0, .decimal⟩

instance : Inhabited Quantity := ⟨zero⟩

def isZero (q : Quantity) : Bool := q.value == 0

/-- The order of the sizes. -/
def order (a b : Quantity) : Ordering :=
  if a < b then .lt else if b < a then .gt else .eq

/-- The larger of two sizes, the second of two that are the same. -/
def max (a b : Quantity) : Quantity := if b < a then a else b

/-- The smaller of two sizes, the first of two that are the same. -/
def min (a b : Quantity) : Quantity := if b < a then b else a

/-- Another size in the same notation. -/
def withValue (q : Quantity) (v : Int64) : Quantity := { q with value := v }

/-- The size that is `n` bytes larger, as far as it is in range. -/
def grow? (q : Quantity) (n : Int) : Option Quantity :=
  (int64OfInt? (q.value.toInt + n)).map q.withValue

/-- The sum in the notation of the first. -/
def checkedAdd (a b : Quantity) : Option Quantity := a.grow? b.value.toInt

/-- The sum of sizes one after the other, none from the first that goes out of range. -/
def sum? (qs : List Quantity) : Option Quantity := qs.foldlM checkedAdd zero

/-! ### The order -/

variable {a b c : Quantity}

theorem beq_def : (a == b) = (a.value == b.value) := rfl

theorem le_iff_toInt_le : a ≤ b ↔ a.value.toInt ≤ b.value.toInt := Int64.le_iff_toInt_le

theorem lt_iff_toInt_lt : a < b ↔ a.value.toInt < b.value.toInt := Int64.lt_iff_toInt_lt

theorem not_le : ¬a ≤ b ↔ b < a := Int64.not_le

theorem not_lt : ¬a < b ↔ b ≤ a := Int64.not_lt

theorem le_trans (hab : a ≤ b) (hbc : b ≤ c) : a ≤ c := Int64.le_trans hab hbc

theorem lt_trans (hab : a < b) (hbc : b < c) : a < c := Int64.lt_trans hab hbc

theorem lt_of_le_of_value_ne (h : a ≤ b) (ne : a.value ≠ b.value) : a < b :=
  Int64.lt_of_le_of_ne h ne

theorem min_le_left : min a b ≤ a := by
  unfold min
  split
  · next h => exact Int64.le_of_lt h
  · exact Int64.le_refl a.value

theorem min_le_min_left (h : b ≤ c) : min a b ≤ min a c := by
  simp only [min, le_iff_toInt_le, lt_iff_toInt_lt] at h ⊢
  split <;> split <;> omega

/-! ### Sums -/

theorem value_of_grow? {q grown : Quantity} {n : Int} (h : q.grow? n = some grown) :
    grown.value.toInt = q.value.toInt + n := by
  obtain ⟨v, hv, rfl⟩ := Option.map_eq_some_iff.1 h
  exact int64OfInt?_eq_some_iff.1 hv

end Quantity

end FleetMend
