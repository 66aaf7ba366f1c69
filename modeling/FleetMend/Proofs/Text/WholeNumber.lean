import FleetMend.Text.Digits
import Mathlib.Tactic.Ring

/-!
Whole numbers as they are written.

* `Digits.Row`: one or more ASCII digits.
* `Digits.value_append`: a row of digits counts as its two parts do, each at its place.
* `Digits.Writes`: an optional sign and a row of digits write a number.
* `Digits.readInt?_eq_some_iff`: a number is read from a text exactly where the text writes it.
-/

namespace FleetMend.Digits

variable {cs : List Char} {n : Int}

/-! ### Rows of digits -/

/-- One or more ASCII digits. -/
def Row (cs : List Char) : Prop := cs ≠ [] ∧ ∀ c ∈ cs, c.isDigit = true

/-- No row of digits begins with a sign. -/
theorem not_row_cons {c : Char} (h : c.isDigit = false) : ¬Row (c :: cs) := by
  intro row
  have digit := row.2 c List.mem_cons_self
  rw [h] at digit
  cases digit

theorem Row.exists_getLast? (h : Row cs) : ∃ c, cs.getLast? = some c ∧ c.isDigit = true :=
  ⟨cs.getLast h.1, List.getLast?_eq_some_getLast h.1, h.2 _ (List.getLast_mem h.1)⟩

theorem value_append (a b : List Char) :
    value (a ++ b) = value a * 10 ^ b.length + value b := by
  unfold value
  rw [List.foldl_append]
  generalize a.foldl (fun n c => 10 * n + digit c) 0 = m
  -- Each digit that follows moves the number so far by one place.
  induction b generalizing m with
  | nil => simp
  | cons c b ih =>
    rw [List.foldl_cons, List.foldl_cons, ih, ih (10 * 0 + digit c), List.length_cons]
    ring

theorem value_replicate_zero (k : Nat) : value (List.replicate k '0') = 0 := by
  induction k with
  | zero => rfl
  | succ k ih => rw [List.replicate_succ', value_append, ih, Nat.zero_mul]; rfl

theorem readDigits?_eq_some_iff {m : Nat} : readDigits? cs = some m ↔ Row cs ∧ value cs = m := by
  simp [readDigits?, Row]

/-! ### Numbers with a sign -/

/-- An optional sign and a row of digits write the number. -/
inductive Writes : List Char → Int → Prop
  | unsigned {cs : List Char} (digits : Row cs) : Writes cs (value cs)
  | plus {cs : List Char} (digits : Row cs) : Writes ('+' :: cs) (value cs)
  | minus {cs : List Char} (digits : Row cs) : Writes ('-' :: cs) (-(value cs : Int))

theorem readInt?_minus (cs : List Char) :
    readInt? ('-' :: cs) = (readDigits? cs).map fun m : Nat => -(m : Int) := by
  cases h : readDigits? cs <;> simp [readInt?, h]

theorem readInt?_plus (cs : List Char) :
    readInt? ('+' :: cs) = (readDigits? cs).map fun m : Nat => (m : Int) := by
  cases h : readDigits? cs <;> simp [readInt?, readNat?, h]

theorem readInt?_unsigned (minus : ∀ rest, cs ≠ '-' :: rest) (plus : ∀ rest, cs ≠ '+' :: rest) :
    readInt? cs = (readDigits? cs).map fun m : Nat => (m : Int) := by
  have nat : readNat? cs = readDigits? cs := by
    unfold readNat?
    split
    · exact absurd rfl (plus _)
    · rfl
  unfold readInt?
  split
  · exact absurd rfl (minus _)
  · cases h : readDigits? cs <;> simp [nat, h]

theorem Writes.readInt? (h : Writes cs n) : readInt? cs = some n := by
  cases h with
  | unsigned digits =>
    have unsigned {c : Char} (hc : c.isDigit = false) (rest : List Char) : cs ≠ c :: rest :=
      fun same => not_row_cons hc (same ▸ digits)
    rw [readInt?_unsigned (unsigned (by decide)) (unsigned (by decide)),
      readDigits?_eq_some_iff.2 ⟨digits, rfl⟩, Option.map_some]
  | plus digits => rw [readInt?_plus, readDigits?_eq_some_iff.2 ⟨digits, rfl⟩, Option.map_some]
  | minus digits => rw [readInt?_minus, readDigits?_eq_some_iff.2 ⟨digits, rfl⟩, Option.map_some]

/-- **Whole numbers.**  A number is read exactly where the text writes it. -/
theorem readInt?_eq_some_iff : readInt? cs = some n ↔ Writes cs n := by
  refine ⟨fun h => ?_, Writes.readInt?⟩
  by_cases minus : ∃ rest, cs = '-' :: rest
  · obtain ⟨rest, rfl⟩ := minus
    obtain ⟨m, read, rfl⟩ := Option.map_eq_some_iff.1 (readInt?_minus rest ▸ h)
    obtain ⟨row, rfl⟩ := readDigits?_eq_some_iff.1 read
    exact .minus row
  · by_cases plus : ∃ rest, cs = '+' :: rest
    · obtain ⟨rest, rfl⟩ := plus
      obtain ⟨m, read, rfl⟩ := Option.map_eq_some_iff.1 (readInt?_plus rest ▸ h)
      obtain ⟨row, rfl⟩ := readDigits?_eq_some_iff.1 read
      exact .plus row
    · have unsigned := readInt?_unsigned (not_exists.1 minus) (not_exists.1 plus)
      obtain ⟨m, read, rfl⟩ := Option.map_eq_some_iff.1 (unsigned ▸ h)
      obtain ⟨row, rfl⟩ := readDigits?_eq_some_iff.1 read
      exact .unsigned row

/-- A number ends in a digit, also behind a mark. -/
theorem Writes.exists_getLast?_cons (h : Writes cs n) (mark : Char) :
    ∃ c, (mark :: cs).getLast? = some c ∧ c.isDigit = true := by
  have after {cs : List Char} (marks : List Char) (digits : Row cs) :
      ∃ c, (marks ++ cs).getLast? = some c ∧ c.isDigit = true := by
    obtain ⟨c, last, digit⟩ := digits.exists_getLast?
    exact ⟨c, by rw [List.getLast?_append, last, Option.some_or], digit⟩
  cases h with
  | unsigned digits => exact after [mark] digits
  | plus digits => exact after [mark, '+'] digits
  | minus digits => exact after [mark, '-'] digits

theorem readInt32?_eq_some_iff :
    readInt32? cs = some n ↔ Writes cs n ∧ -2 ^ 31 ≤ n ∧ n < 2 ^ 31 := by
  simp [readInt32?, readInt?_eq_some_iff, fitsInt32]

end FleetMend.Digits
