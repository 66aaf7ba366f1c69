import FleetMend.Proofs.Quantity.Meaning
import FleetMend.Quantity.Printer

/-!
A size that is written down is read back with the same number of bytes.

* `Digits.value_ofNat`: the digits of a number write it.
* `Form.reads_units`: the suffix of a unit is read as what the unit multiplies by.
* `Quantity.reread`: the size as it is read back.  What is written without a suffix is read in the
  decimal notation.
* `Quantity.read_text`: every size but the least is read back so.
* `Quantity.read_ne_least`: the least is not read at all.
-/

namespace FleetMend

/-! ### Digits -/

namespace Digits

theorem value_ofNat (n : Nat) : value (ofNat n) = n := Nat.ofDigitChars_ten_toDigits

theorem ofNat_ne_nil (n : Nat) : ofNat n ≠ [] := Nat.toDigits_ne_nil

theorem isDigit_of_mem_ofNat {n : Nat} {c : Char} (h : c ∈ ofNat n) : c.isDigit = true :=
  Nat.isDigit_of_mem_toDigits (by decide) (by decide) h

end Digits

/-! ### Units -/

/-- A scale multiplies by a number of bytes. -/
def Scale.Multiplies (scale : Scale) (unit : Nat) : Prop :=
  ∀ m, Quantity.fitsNat128 (m * unit) = true →
    Quantity.ratio? m 0 scale = some (m * unit, 1)

theorem Scale.multiplies_binary (shift : Nat) : (binary shift).Multiplies (Nat.pow 2 shift) := by
  intro m fits
  rw [Quantity.ratio?, Quantity.mul128?, if_pos fits]
  rfl

theorem Scale.multiplies_power {scale : Scale} {power : Nat}
    (h : scale = decimal power ∨ scale = exponent power) (small : power ≤ 38) :
    scale.Multiplies (Nat.pow 10 power) := by
  intro m fits
  have net : (0 : Int) ≤ (power : Int) - (0 : Nat) := by omega
  have size : ((power : Int) - (0 : Nat)).toNat = power := by omega
  have pow : Quantity.pow10? power = some (Nat.pow 10 power) := if_pos small
  rcases h with rfl | rfl <;>
  · dsimp only [Quantity.ratio?]
    rw [if_pos net, size, pow]
    change (Quantity.mul128? m (Nat.pow 10 power)).bind _ = _
    rw [Quantity.mul128?, if_pos fits]
    rfl

namespace Form

/-- In this notation the suffix stands for so many bytes, and is read so. -/
structure Reads (form : Form) (suffix : String) (unit : Nat) : Prop where
  positive : 0 < unit
  /-- The suffix does not go on like a number. -/
  ends : (suffix.toList.head?.all fun c => !Quantity.isNumeric c) = true
  scale : ∃ scale, Scale.ofSuffix? suffix.toList = some scale ∧ scale.form = form ∧
    scale.Multiplies unit

theorem reads_units (form : Form) {u : Int × String} (h : u ∈ form.units) :
    ∃ unit : Nat, u.1 = unit ∧ form.Reads u.2 unit := by
  cases form with
  | binary =>
    simp only [units, List.mem_cons, List.not_mem_nil, or_false] at h
    rcases h with rfl | rfl | rfl | rfl | rfl | rfl <;>
      exact ⟨_, rfl, by decide, by decide, _, by decide, rfl, Scale.multiplies_binary _⟩
  | decimal =>
    simp only [units, List.mem_cons, List.not_mem_nil, or_false] at h
    rcases h with rfl | rfl | rfl | rfl | rfl | rfl <;>
      exact ⟨_, rfl, by decide, by decide, _, by decide, rfl,
        Scale.multiplies_power (.inl rfl) (by decide)⟩
  | exponent =>
    simp only [units, List.mem_cons, List.not_mem_nil, or_false] at h
    rcases h with rfl | rfl | rfl | rfl | rfl | rfl <;>
      exact ⟨_, rfl, by decide, by decide, _, by decide, rfl,
        Scale.multiplies_power (.inr rfl) (by decide)⟩

/-- No suffix stands for single bytes in the decimal notation. -/
theorem reads_empty : Reads .decimal "" 1 :=
  ⟨by decide, by decide, .decimal 0, by decide, rfl,
    Scale.multiplies_power (.inl rfl) (Nat.zero_le 38)⟩

end Form

/-! ### Numbers as they are written -/

namespace Decimal

/-- A whole number, written without a point. -/
def ofNat (n : Nat) : Decimal :=
  ⟨Digits.ofNat n, [], fun _ => Digits.isDigit_of_mem_ofNat, by simp, .inl (Digits.ofNat_ne_nil n)⟩

theorem mantissa_ofNat (n : Nat) : (ofNat n).mantissa = n := by
  rw [mantissa, significant, ofNat, List.rdropWhile_nil, List.append_nil, Digits.value_ofNat]

theorem places_ofNat (n : Nat) : (ofNat n).places = 0 := by
  rw [places, significant, ofNat, List.rdropWhile_nil, List.length_nil]

end Decimal

namespace Quantity

variable {n unit : Nat} {suffix : String} {form : Form} {negative : Bool}

theorem isNumeric_of_mem_ofNat {c : Char} (h : c ∈ Digits.ofNat n) : isNumeric c = true := by
  rw [isNumeric, Digits.isDigit_of_mem_ofNat h, Bool.true_or]

/-- A number of whole units is what they come to. -/
theorem scaled?_units {scale : Scale} {v : Int64} (h : scale.Multiplies unit)
    (small : n * unit < Nat.pow 2 63)
    (hv : v.toInt = if negative then -((n * unit : Nat) : Int) else (n * unit : Nat)) :
    scaled? negative n 0 scale = some v := by
  have fits : fitsNat128 (n * unit) = true :=
    decide_eq_true (Nat.lt_trans small (by decide))
  have whole : roundUp negative (n * unit) 1 = n * unit := by
    simp [roundUp, Nat.mod_one]
  rw [scaled?, h n fits, Option.bind_some, whole, signed?, if_pos small, ← hv, Int64.ofInt_toInt]

/-- The number ends where the suffix begins, and there is a sign where one was put. -/
theorem split_ofNat (text : List Char) (h : form.Reads suffix unit)
    (written :
      text = (if negative then ['-'] else []) ++ (Digits.ofNat n ++ suffix.toList)) :
    Split text (if negative then ['-'] else []) (Digits.ofNat n) suffix.toList where
  text_eq := written
  sign := by
    obtain ⟨d, ds, hd⟩ := List.exists_cons_of_ne_nil (Digits.ofNat_ne_nil n)
    have digit : d.isDigit = true := Digits.isDigit_of_mem_ofNat (hd ▸ List.mem_cons_self)
    have unsigned : d ≠ '-' ∧ d ≠ '+' :=
      ⟨(by rintro rfl; cases digit), (by rintro rfl; cases digit)⟩
    rw [written, hd]
    cases negative <;> simp [unsigned]
  numeric _ := isNumeric_of_mem_ofNat
  longest c hc := by
    have ends := h.ends
    rw [Option.mem_def.1 hc] at ends
    simpa using ends

/-- Sign, number and suffix are read as the number of units. -/
theorem read_units {input : String} {v : Int64} (negative : Bool) (n : Nat)
    (h : form.Reads suffix unit)
    (written :
      input.toList = (if negative then ['-'] else []) ++ (Digits.ofNat n ++ suffix.toList))
    (small : n * unit < Nat.pow 2 63)
    (hv : v.toInt = if negative then -((n * unit : Nat) : Int) else (n * unit : Nat)) :
    read input = .ok ⟨v, form⟩ := by
  obtain ⟨scale, hscale, rfl, multiplies⟩ := h.scale
  have bounded : n ≤ n * unit := Nat.le_mul_of_pos_right n h.positive
  have fits : n < 2 ^ 128 :=
    Nat.lt_trans (Nat.lt_of_le_of_lt bounded small) (by decide)
  have parts : Parts input.toList (if negative then ['-'] else []) (.ofNat n) suffix.toList :=
    ⟨⟨_, split_ofNat _ h written, .inl ⟨rfl, rfl⟩⟩, (Decimal.mantissa_ofNat n).symm ▸ fits⟩
  have minus : decide ((if negative then ['-'] else []) = ['-']) = negative := by
    cases negative <;> rfl
  rw [parts.read, hscale, Decimal.mantissa_ofNat, Decimal.places_ofNat, minus]
  dsimp only
  rw [scaled?_units multiplies small hv]

/-- The notation in which a size is read back: without a suffix it is the decimal one. -/
def rereadForm (q : Quantity) : Form :=
  if q.isZero ∨ q.form.units.find? (fun u => q.value.toInt % u.1 = 0) = none then .decimal
  else q.form

/-- The size as it is read back after it was written. -/
def reread (q : Quantity) : Quantity := ⟨q.value, q.rereadForm⟩

theorem reread_beq (q : Quantity) : (q.reread == q) = true := by
  rw [beq_def]
  exact beq_self_eq_true q.value

/-- A number with its sign, as it is written. -/
theorem ofInt_eq (count : Int) : Digits.ofInt count =
    (if decide (count < 0) then ['-'] else []) ++ Digits.ofNat count.natAbs := by
  unfold Digits.ofInt
  by_cases h : count < 0 <;> simp [h]

/-- A count of units is read as what they come to. -/
theorem read_count {q : Quantity} {count : Int} (h : form.Reads suffix unit)
    (least : q.value ≠ Int64.minValue) (hcount : q.value.toInt = count * unit) :
    read (String.ofList (Digits.ofInt count) ++ suffix) = .ok ⟨q.value, form⟩ := by
  have magnitude : ((count.natAbs * unit : Nat) : Int) = q.value.toInt.natAbs := by
    rw [hcount, Int.natAbs_mul, Int.natAbs_natCast]
  have low := q.value.le_toInt
  have high := q.value.toInt_lt
  have notLeast : q.value.toInt ≠ Int64.minValue.toInt := fun h => least (Int64.toInt_inj.1 h)
  rw [Int64.toInt_minValue] at notLeast
  have positive := h.positive
  refine read_units (decide (count < 0)) count.natAbs h ?_ ?_ ?_
  · rw [String.toList_append, String.toList_ofList, ofInt_eq, List.append_assoc]
  · have small : q.value.toInt.natAbs < 2 ^ 63 := by omega
    have : count.natAbs * unit = q.value.toInt.natAbs := by exact_mod_cast magnitude
    rw [this]
    exact small
  · rw [magnitude]
    by_cases negative : count < 0
    · have : q.value.toInt < 0 := hcount ▸ Int.mul_neg_of_neg_of_pos negative (by omega)
      simp only [negative, decide_true, if_true]
      omega
    · have : 0 ≤ q.value.toInt := hcount ▸ Int.mul_nonneg (by omega) (by omega)
      simp only [negative, decide_false, Bool.false_eq_true, if_false]
      omega

/-- **Return.**  Every size but the least is read back from its text, with the same number of bytes.
-/
theorem read_text {q : Quantity} (least : q.value ≠ Int64.minValue) :
    read q.text = .ok q.reread := by
  by_cases nothing : q.isZero
  · have none : q.value = 0 := eq_of_beq nothing
    rw [text, if_pos nothing, reread, rereadForm, if_pos (.inl nothing), none]
    rfl
  · have written : q.text = String.ofList (Digits.ofInt (inUnits q.form q.value.toInt).1) ++
        (inUnits q.form q.value.toInt).2 := if_neg nothing
    rw [written, inUnits]
    cases found : q.form.units.find? (fun u => q.value.toInt % u.1 = 0) with
    | none =>
      have form : q.rereadForm = .decimal := if_pos (.inr found)
      rw [reread, form]
      exact read_count Form.reads_empty least (by simp)
    | some u =>
      have goesInto : ¬(q.isZero ∨
          q.form.units.find? (fun u => q.value.toInt % u.1 = 0) = none) := by
        rw [found]
        exact not_or.2 ⟨nothing, Option.some_ne_none u⟩
      have form : q.rereadForm = q.form := if_neg goesInto
      obtain ⟨unit, hu, reads⟩ := q.form.reads_units (List.mem_of_find?_eq_some found)
      have goes : q.value.toInt % u.1 = 0 := by simpa using List.find?_some found
      rw [reread, form]
      refine read_count reads least ?_
      rw [← hu, Int.ediv_mul_cancel (Int.dvd_of_emod_eq_zero goes)]

example : (⟨500, .binary⟩ : Quantity).reread = ⟨500, .decimal⟩ := rfl

/-- The least size is not read from any text. -/
theorem read_ne_least {input : String} {q : Quantity} (h : read input = .ok q) :
    q.value ≠ Int64.minValue := by
  have means := means_read input
  rw [h] at means
  cases means with
  | size parts known fits range value =>
    rintro rfl
    rw [← value, Int64.toInt_minValue] at range
    exact absurd range (by decide)

end Quantity

end FleetMend
