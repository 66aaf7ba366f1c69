import FleetMend.Proofs.Quantity.Return
import Mathlib.Algebra.Ring.Nat

/-!
The unit that a size is written in.

* `Form.HasUnit`: the units of a notation, each with its suffix.  The exponents go on without end.
* `Form.Largest`: the largest of them that goes into a number without rest.
* `Quantity.Written`: the text of a size in its largest unit, and the notation in which that text is
  read back.
* `Quantity.read_written`: every size is written so, and every size but the least is read back so.
-/

namespace FleetMend

/-! ### The units of a notation -/

namespace Form

/-- The units of a notation: the powers of 1024 and of 1000 in order, and every power of 1000 as an
exponent of ten. -/
inductive HasUnit : Form → Nat → String → Prop
  | binary {suffix : String} (i : Nat)
      (listed : ["Ki", "Mi", "Gi", "Ti", "Pi", "Ei"][i]? = some suffix) :
      HasUnit .binary (1024 ^ (i + 1)) suffix
  | decimal {suffix : String} (i : Nat)
      (listed : ["k", "M", "G", "T", "P", "E"][i]? = some suffix) :
      HasUnit .decimal (1000 ^ (i + 1)) suffix
  | exponent (i : Nat) :
      HasUnit .exponent (1000 ^ (i + 1)) ("e" ++ String.ofList (Digits.ofNat (3 * (i + 1))))

/-- Of the units that go into the number without rest it is the largest. -/
structure Largest (form : Form) (v : Int) (unit : Nat) (suffix : String) : Prop where
  isUnit : form.HasUnit unit suffix
  divides : (unit : Int) ∣ v
  largest : ∀ other name, form.HasUnit other name → (other : Int) ∣ v → other ≤ unit

variable {form : Form} {unit : Nat} {suffix : String} {v : Int}

theorem units_binary : units .binary = (["Ki", "Mi", "Gi", "Ti", "Pi", "Ei"].mapIdx
    fun i name => (((1024 ^ (i + 1) : Nat) : Int), name)).reverse := by decide

theorem units_decimal : units .decimal = (["k", "M", "G", "T", "P", "E"].mapIdx
    fun i name => (((1000 ^ (i + 1) : Nat) : Int), name)).reverse := by decide

theorem units_exponent : units .exponent = ((List.range 6).map fun i =>
    (((1000 ^ (i + 1) : Nat) : Int),
      "e" ++ String.ofList (Digits.ofNat (3 * (i + 1))))).reverse := by decide

theorem units_sorted (form : Form) : form.units.Pairwise fun a b => b.1 < a.1 := by
  cases form <;> decide

theorem hasUnit_of_mem {u : Int × String} (h : u ∈ form.units) :
    ∃ unit : Nat, u.1 = unit ∧ form.HasUnit unit u.2 := by
  cases form with
  | binary =>
    rw [units_binary, List.mem_reverse] at h
    obtain ⟨i, hi, rfl⟩ := List.mem_mapIdx.1 h
    exact ⟨_, rfl, .binary i (List.getElem?_eq_getElem hi)⟩
  | decimal =>
    rw [units_decimal, List.mem_reverse] at h
    obtain ⟨i, hi, rfl⟩ := List.mem_mapIdx.1 h
    exact ⟨_, rfl, .decimal i (List.getElem?_eq_getElem hi)⟩
  | exponent =>
    rw [units_exponent, List.mem_reverse] at h
    obtain ⟨i, -, rfl⟩ := List.mem_map.1 h
    exact ⟨_, rfl, .exponent i⟩

/-- The units that are not tried do not fit a word of 64 bits. -/
theorem HasUnit.mem (h : form.HasUnit unit suffix) (small : unit ≤ 2 ^ 63) :
    ((unit : Int), suffix) ∈ form.units := by
  cases h with
  | binary i listed =>
    obtain ⟨hi, rfl⟩ := List.getElem?_eq_some_iff.1 listed
    rw [units_binary, List.mem_reverse]
    exact List.mem_mapIdx.2 ⟨i, hi, rfl⟩
  | decimal i listed =>
    obtain ⟨hi, rfl⟩ := List.getElem?_eq_some_iff.1 listed
    rw [units_decimal, List.mem_reverse]
    exact List.mem_mapIdx.2 ⟨i, hi, rfl⟩
  | exponent i =>
    -- From the seventh on the powers of 1000 are beyond the word.
    have few : i < 6 := by
      refine Nat.lt_of_not_le fun more => ?_
      have big : 1000 ^ 7 ≤ 1000 ^ (i + 1) := Nat.pow_le_pow_right (by decide) (by omega)
      omega
    rw [units_exponent, List.mem_reverse]
    exact List.mem_map.2 ⟨i, List.mem_range.2 few, rfl⟩

/-- What is found first is the largest. -/
theorem largest_of_find? {u : Int × String}
    (found : form.units.find? (fun u => v % u.1 = 0) = some u)
    (range : ∀ unit : Nat, (unit : Int) ∣ v → unit ≤ 2 ^ 63) :
    ∃ unit : Nat, u.1 = unit ∧ form.Largest v unit u.2 := by
  obtain ⟨goes, before, after, split, passed⟩ := List.find?_eq_some_iff_append.1 found
  obtain ⟨unit, hu, isUnit⟩ := hasUnit_of_mem (List.mem_of_find?_eq_some found)
  refine ⟨unit, hu, isUnit, hu ▸ Int.dvd_of_emod_eq_zero (by simpa using goes), ?_⟩
  intro other name hasUnit divides
  have mem := hasUnit.mem (range other divides)
  have sorted := form.units_sorted
  rw [split] at mem sorted
  -- A unit tried earlier leaves a rest, and the later ones are smaller.
  rcases List.mem_append.1 mem with earlier | later
  · have no := passed _ earlier
    simp [Int.emod_eq_zero_of_dvd divides] at no
  · rcases List.mem_cons.1 later with same | later
    · rw [← same] at hu
      omega
    · have less := (List.pairwise_cons.1 (List.pairwise_append.1 sorted).2.1).1 _ later
      dsimp only at less
      omega

end Form

/-! ### The unit that is written -/

namespace Quantity

/-- The text of a size, and the notation in which that text is read back: its own where a suffix is
written, the decimal one where none is. -/
inductive Written (q : Quantity) : String → Form → Prop
  | units {unit : Nat} {suffix : String} (nonzero : q.value ≠ 0)
      (largest : q.form.Largest q.value.toInt unit suffix) :
      Written q (String.ofList (Digits.ofInt (q.value.toInt / unit)) ++ suffix) q.form
  | bytes (none : q.value = 0 ∨
        ∀ unit suffix, q.form.HasUnit unit suffix → ¬(unit : Int) ∣ q.value.toInt) :
      Written q (String.ofList (Digits.ofInt q.value.toInt)) .decimal

variable {q : Quantity}

/-- What goes into a size that is not nothing is no more than a word of 64 bits holds. -/
theorem le_of_dvd (nonzero : q.value ≠ 0) (unit : Nat) (h : (unit : Int) ∣ q.value.toInt) :
    unit ≤ 2 ^ 63 := by
  have number : q.value.toInt ≠ 0 := fun h => nonzero (Int64.toInt_inj.1 h)
  have size : unit ≤ q.value.toInt.natAbs :=
    Nat.le_of_dvd (Int.natAbs_pos.2 number) (Int.ofNat_dvd_left.1 h)
  have low := q.value.le_toInt
  have high := q.value.toInt_lt
  omega

theorem written_text (q : Quantity) : Written q q.text q.rereadForm := by
  by_cases nothing : q.isZero
  · have zero : q.value = 0 := eq_of_beq nothing
    have text : q.text = String.ofList (Digits.ofInt q.value.toInt) := by
      rw [Quantity.text, if_pos nothing, zero]
      rfl
    have form : q.rereadForm = .decimal := if_pos (.inl nothing)
    rw [text, form]
    exact .bytes (.inl zero)
  · have nonzero : q.value ≠ 0 := fun zero => nothing (beq_iff_eq.2 zero)
    have text : q.text = String.ofList (Digits.ofInt (inUnits q.form q.value.toInt).1) ++
        (inUnits q.form q.value.toInt).2 := if_neg nothing
    rw [text, inUnits]
    cases found : q.form.units.find? (fun u => q.value.toInt % u.1 = 0) with
    | none =>
      have form : q.rereadForm = .decimal := if_pos (.inr found)
      rw [form]
      dsimp only
      rw [String.append_empty]
      refine .bytes (.inr fun unit suffix isUnit divides => ?_)
      have mem := isUnit.mem (le_of_dvd nonzero unit divides)
      have no := List.find?_eq_none.1 found _ mem
      simp [Int.emod_eq_zero_of_dvd divides] at no
    | some u =>
      have form : q.rereadForm = q.form :=
        if_neg (not_or.2 ⟨nothing, found ▸ Option.some_ne_none u⟩)
      obtain ⟨unit, hu, largest⟩ := Form.largest_of_find? found (le_of_dvd nonzero)
      rw [form]
      dsimp only
      rw [hu]
      exact .units nonzero largest

/-- The text of the least size is out of range in every notation. -/
theorem read_text_least (form : Form) :
    read (text ⟨Int64.minValue, form⟩) = .error (.outOfRange (text ⟨Int64.minValue, form⟩)) := by
  cases form <;> rfl

/-- **Largest unit.**  Every size is written in its largest unit.  The text is read back as that size
in its own notation where a suffix was written, and only the text of the least is not read back. -/
theorem read_written (q : Quantity) :
    ∃ form, Written q q.text form ∧ read q.text =
      if q.value = Int64.minValue then .error (.outOfRange q.text) else .ok ⟨q.value, form⟩ := by
  refine ⟨q.rereadForm, q.written_text, ?_⟩
  split
  · next least =>
    obtain ⟨v, form⟩ := q
    cases least
    exact read_text_least form
  · next least => exact read_text least

example : (⟨1500000, .exponent⟩ : Quantity).text = "1500e3" := by decide

end Quantity

end FleetMend
