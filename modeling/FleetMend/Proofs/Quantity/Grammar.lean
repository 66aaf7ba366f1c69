import FleetMend.Proofs.Text.WholeNumber
import FleetMend.Quantity.Reader
import Mathlib.Algebra.Order.Field.Rat
import Mathlib.Data.List.DropRight
import Mathlib.Tactic.Positivity

/-!
The parts that the text of a size is made of.

* `Quantity.Split`: a sign, the longest row of digits and points that follows, and the rest.
* `Decimal`: a number with a point.  `Decimal.exact` is what it stands for, `Decimal.Writes` how it
  is written; `Quantity.wellFormed_iff_exists_writes` says of which rows it is.
* `Scale.Writes`: the suffixes.  `Scale.ofSuffix?_eq_some_iff`: no others are read.
-/

namespace FleetMend

/-! ### Sign, number and suffix -/

namespace Quantity

/-- The text is an optional sign, the longest row of digits and points that follows, and the rest.
-/
structure Split (text sign number suffix : List Char) : Prop where
  text_eq : text = sign ++ (number ++ suffix)
  sign : sign = ['-'] ∨ sign = ['+'] ∨
    sign = [] ∧ text.head? ≠ some '-' ∧ text.head? ≠ some '+'
  numeric : ∀ c ∈ number, isNumeric c = true
  longest : ∀ c ∈ suffix.head?, isNumeric c = false

theorem exists_split (text : List Char) : ∃ sign number suffix, Split text sign number suffix := by
  have parts (sign rest : List Char) (h : text = sign ++ rest)
      (hs : sign = ['-'] ∨ sign = ['+'] ∨
        sign = [] ∧ text.head? ≠ some '-' ∧ text.head? ≠ some '+') :
      ∃ sign number suffix, Split text sign number suffix := by
    refine ⟨sign, rest.takeWhile isNumeric, rest.dropWhile isNumeric, ?_, hs,
      fun c hc => List.mem_takeWhile_imp hc, fun c hc => ?_⟩
    · rw [List.takeWhile_append_dropWhile, h]
    · have stops := List.head?_dropWhile_not isNumeric rest
      rw [Option.mem_def.1 hc] at stops
      exact stops
  by_cases minus : text.head? = some '-'
  · obtain ⟨rest, rfl⟩ := List.head?_eq_some_iff.1 minus
    exact parts ['-'] rest rfl (.inl rfl)
  · by_cases plus : text.head? = some '+'
    · obtain ⟨rest, rfl⟩ := List.head?_eq_some_iff.1 plus
      exact parts ['+'] rest rfl (.inr (.inl rfl))
    · exact parts [] text rfl (.inr (.inr ⟨rfl, minus, plus⟩))

section

variable {text sign number suffix : List Char}

/-- The first character tells whether there is a sign, and which. -/
theorem Split.head?_eq_minus_iff (h : Split text sign number suffix) :
    text.head? = some '-' ↔ sign = ['-'] := by
  rcases h.sign with rfl | rfl | ⟨rfl, minus, plus⟩
  · simp [h.text_eq]
  · simp [h.text_eq]
  · simp [minus]

/-- What is left once the sign is taken off. -/
theorem Split.unsigned (h : Split text sign number suffix) :
    (if text.head? = some '-' ∨ text.head? = some '+' then text.drop 1 else text) =
      number ++ suffix := by
  rcases h.sign with rfl | rfl | ⟨rfl, minus, plus⟩
  · simp [h.text_eq]
  · simp [h.text_eq]
  · rw [if_neg (not_or.2 ⟨minus, plus⟩), h.text_eq, List.nil_append]

theorem Split.takeWhile (h : Split text sign number suffix) :
    (number ++ suffix).takeWhile isNumeric = number := by
  rw [List.takeWhile_append_of_pos h.numeric]
  cases suffix with
  | nil => simp
  | cons c rest => simp [h.longest c rfl]

theorem Split.dropWhile (h : Split text sign number suffix) :
    (number ++ suffix).dropWhile isNumeric = suffix := by
  rw [List.dropWhile_append_of_pos h.numeric]
  cases suffix with
  | nil => rfl
  | cons c rest => simp [h.longest c rfl]

end

/-- The row has at most one point and at least one digit. -/
def WellFormed (number : List Char) : Prop :=
  number.count '.' ≤ 1 ∧ ∃ c ∈ number, c.isDigit = true

end Quantity

/-! ### Numbers with a point -/

/-- A number with a point: the digits before it and those after it. -/
structure Decimal where
  whole : List Char
  fraction : List Char
  whole_digits : ∀ c ∈ whole, c.isDigit = true
  fraction_digits : ∀ c ∈ fraction, c.isDigit = true
  /-- There is a digit on one side at least. -/
  ne_nil : whole ≠ [] ∨ fraction ≠ []

namespace Decimal

variable {number : List Char} (d : Decimal)

/-- The number that it stands for. -/
def exact : ℚ := Digits.value (d.whole ++ d.fraction) / 10 ^ d.fraction.length

/-- The digits after the point, without the zeros at the end. -/
def significant : List Char := d.fraction.rdropWhile (· = '0')

/-- The digits without the point, as a whole number. -/
def mantissa : Nat := Digits.value (d.whole ++ d.significant)

/-- How many of these digits stand after the point. -/
def places : Nat := d.significant.length

/-- The row writes the number; a point at the end may be left out. -/
def Writes (number : List Char) : Prop :=
  number = d.whole ∧ d.fraction = [] ∨ number = d.whole ++ '.' :: d.fraction

/-- Zeros at the end of the fraction do not count. -/
theorem exact_eq : d.exact = d.mantissa / 10 ^ d.places := by
  obtain ⟨zeros, fraction⟩ : ∃ k, d.fraction = d.significant ++ List.replicate k '0' := by
    refine ⟨(d.fraction.rtakeWhile (· = '0')).length, ?_⟩
    have zero : ∀ c ∈ d.fraction.rtakeWhile (· = '0'), c = '0' := fun c hc => by
      simpa using List.mem_rtakeWhile_imp hc
    rw [← List.eq_replicate_of_mem zero, significant, List.rdropWhile_append_rtakeWhile]
  have value : Digits.value (d.whole ++ d.fraction) = d.mantissa * 10 ^ zeros := by
    rw [fraction, ← List.append_assoc, Digits.value_append, Digits.value_replicate_zero,
      List.length_replicate, Nat.add_zero, mantissa]
  have length : d.fraction.length = d.places + zeros := by
    rw [fraction, List.length_append, List.length_replicate, places]
  rw [exact, value, length, pow_add, Nat.cast_mul, Nat.cast_pow, Nat.cast_ofNat,
    mul_div_mul_right _ _ (by positivity)]

theorem ne_point {c : Char} (h : c.isDigit = true) : (c != '.') = true := by
  refine bne_iff_ne.2 fun point => ?_
  rw [point] at h
  cases h

theorem not_point_mem {cs : List Char} (h : ∀ c ∈ cs, c.isDigit = true) : '.' ∉ cs :=
  fun point => bne_iff_ne.1 (ne_point (h _ point)) rfl

variable {d}

theorem Writes.ne_nil (h : d.Writes number) : number ≠ [] := by
  rcases h with ⟨rfl, none⟩ | rfl
  · exact d.ne_nil.resolve_right (not_not.2 none)
  · exact List.append_ne_nil_of_right_ne_nil _ (List.cons_ne_nil _ _)

theorem Writes.takeWhile (h : d.Writes number) : number.takeWhile (· != '.') = d.whole := by
  have digits : ∀ c ∈ d.whole, (c != '.') = true := fun c hc => ne_point (d.whole_digits c hc)
  rcases h with ⟨rfl, -⟩ | rfl
  · rw [← List.append_nil d.whole, List.takeWhile_append_of_pos digits, List.takeWhile_nil]
  · rw [List.takeWhile_append_of_pos digits]
    simp

theorem Writes.dropWhile (h : d.Writes number) :
    (number.dropWhile (· != '.')).drop 1 = d.fraction := by
  have digits : ∀ c ∈ d.whole, (c != '.') = true := fun c hc => ne_point (d.whole_digits c hc)
  rcases h with ⟨rfl, none⟩ | rfl
  · rw [← List.append_nil d.whole, List.dropWhile_append_of_pos digits, none]
    rfl
  · rw [List.dropWhile_append_of_pos digits]
    simp

/-- It is read as its digits and how many stand after the point, if these fit. -/
theorem Writes.mantissa? (h : d.Writes number) :
    Quantity.mantissa? number =
      if d.mantissa < 2 ^ 128 then some (d.mantissa, d.places) else none := by
  have point : '.' ∉ d.fraction := not_point_mem d.fraction_digits
  have some_digit : ¬(d.whole = [] ∧ d.fraction = []) := by
    rw [not_and_or]
    exact d.ne_nil
  unfold Quantity.mantissa?
  simp only [h.takeWhile, h.dropWhile, some_digit, point, or_self, if_false, Quantity.fitsNat128,
    decide_eq_true_eq]
  rfl

end Decimal

namespace Quantity

variable {number : List Char}

/-- A row has no point, or it is cut at its first. -/
theorem cut_at_point (number : List Char) :
    number.dropWhile (· != '.') = [] ∧ number = number.takeWhile (· != '.') ∨
      ∃ cs, number.dropWhile (· != '.') = '.' :: cs ∧
        number = number.takeWhile (· != '.') ++ '.' :: cs := by
  have parts := List.takeWhile_append_dropWhile (p := (· != '.')) (l := number)
  have stops := List.head?_dropWhile_not (· != '.') number
  cases rest : number.dropWhile (· != '.') with
  | nil =>
    rw [rest, List.append_nil] at parts
    exact .inl ⟨rfl, parts.symm⟩
  | cons c cs =>
    rw [rest] at parts stops
    obtain rfl : c = '.' := by simpa using stops
    exact .inr ⟨cs, rfl, parts.symm⟩

/-- A row that goes on with digits only after its first point, and has a digit, writes a number. -/
theorem exists_writes (numeric : ∀ c ∈ number, isNumeric c = true)
    (points : '.' ∉ (number.dropWhile (· != '.')).drop 1)
    (digits : ¬(number.takeWhile (· != '.') = [] ∧ (number.dropWhile (· != '.')).drop 1 = [])) :
    ∃ d : Decimal, d.Writes number := by
  have digit {c : Char} (hc : c ∈ number) (ne : c ≠ '.') : c.isDigit = true := by
    simpa [isNumeric, ne] using numeric c hc
  have whole : ∀ c ∈ number.takeWhile (· != '.'), c.isDigit = true := fun c hc =>
    digit (List.takeWhile_subset _ hc) (bne_iff_ne.1 (List.mem_takeWhile_imp (p := (· != '.')) hc))
  rcases cut_at_point number with ⟨rest, same⟩ | ⟨cs, rest, same⟩
  · rw [rest] at digits
    exact ⟨⟨_, [], whole, by simp, .inl fun none => digits ⟨none, rfl⟩⟩, .inl ⟨same, rfl⟩⟩
  · rw [rest] at points digits
    have fraction : ∀ c ∈ cs, c.isDigit = true := fun c hc =>
      digit (by rw [same]; simp [hc]) fun point => points (point ▸ hc)
    exact ⟨⟨_, cs, whole, fraction, not_and_or.1 digits⟩, .inr same⟩

/-- The rows with at most one point and at least one digit are those that write a number. -/
theorem wellFormed_iff_exists_writes (numeric : ∀ c ∈ number, isNumeric c = true) :
    WellFormed number ↔ ∃ d : Decimal, d.Writes number := by
  constructor
  · rintro ⟨points, c, hc, digit⟩
    rcases cut_at_point number with ⟨rest, same⟩ | ⟨cs, rest, same⟩
    · refine exists_writes numeric (by simp [rest]) fun none => ?_
      rw [same, none.1] at hc
      cases hc
    · refine exists_writes numeric (fun again => ?_) fun none => ?_
      · rw [rest] at again
        rw [same, List.count_append, List.count_cons_self] at points
        have more : 0 < cs.count '.' := List.count_pos_iff.2 again
        omega
      · rw [rest] at none
        rw [same, none.1, show cs = [] from none.2, List.nil_append, List.mem_singleton] at hc
        rw [hc] at digit
        cases digit
  · rintro ⟨d, ⟨rfl, none⟩ | rfl⟩
    · refine ⟨?_, ?_⟩
      · rw [List.count_eq_zero.2 (Decimal.not_point_mem d.whole_digits)]
        exact Nat.zero_le 1
      · obtain ⟨c, hc⟩ := List.exists_mem_of_ne_nil _ (d.ne_nil.resolve_right (not_not.2 none))
        exact ⟨c, hc, d.whole_digits c hc⟩
    · refine ⟨?_, ?_⟩
      · rw [List.count_append, List.count_cons_self,
          List.count_eq_zero.2 (Decimal.not_point_mem d.whole_digits),
          List.count_eq_zero.2 (Decimal.not_point_mem d.fraction_digits)]
      · rcases d.ne_nil with some | some
        · obtain ⟨c, hc⟩ := List.exists_mem_of_ne_nil _ some
          exact ⟨c, by simp [hc], d.whole_digits c hc⟩
        · obtain ⟨c, hc⟩ := List.exists_mem_of_ne_nil _ some
          exact ⟨c, by simp [hc], d.fraction_digits c hc⟩

/-- Other rows are not read. -/
theorem mantissa?_of_not_wellFormed (numeric : ∀ c ∈ number, isNumeric c = true)
    (h : ¬WellFormed number) : mantissa? number = none := by
  unfold mantissa?
  refine if_pos ?_
  by_contra no
  rw [not_or] at no
  exact h ((wellFormed_iff_exists_writes numeric).2 (exists_writes numeric no.2 no.1))

end Quantity

/-! ### Suffixes -/

namespace Scale

variable {suffix : List Char} {scale : Scale}

/-- What the scale multiplies by. -/
def factor : Scale → ℚ
  | binary shift => 2 ^ shift
  | decimal power | exponent power => 10 ^ power

/-- The suffix of each unit: of the powers of 1024 and of 1000 in order, or an exponent of ten
behind a mark. -/
inductive Writes : List Char → Scale → Prop
  | binary {name : String} (i : Nat)
      (listed : ["Ki", "Mi", "Gi", "Ti", "Pi", "Ei"][i]? = some name) :
      Writes name.toList (.binary (10 * (i + 1)))
  | decimal {name : String} (i : Nat)
      (listed : ["n", "u", "m", "", "k", "M", "G", "T", "P", "E"][i]? = some name) :
      Writes name.toList (.decimal (3 * i - 9))
  | exponent {mark : Char} {number : List Char} {n : Int} (hm : mark = 'e' ∨ mark = 'E')
      (hn : Digits.Writes number n) (low : -2 ^ 31 ≤ n) (high : n < 2 ^ 31) :
      Writes (mark :: number) (.exponent n)

/-- What ends in a digit is in no list of suffixes. -/
theorem lookup_of_digit {α : Type} {l : List (String × α)} {c : Char}
    (last : suffix.getLast? = some c) (digit : c.isDigit = true)
    (ends : ∀ e ∈ l, (e.1.toList.getLast?.any Char.isDigit) = false) :
    l.lookup (String.ofList suffix) = none := by
  refine List.lookup_eq_none_iff.2 fun e he => bne_iff_ne.2 fun same => ?_
  have no := ends e he
  rw [← same, String.toList_ofList, last, Option.any_some, digit] at no
  cases no

theorem Writes.ofSuffix? (h : Writes suffix scale) : ofSuffix? suffix = some scale := by
  cases h with
  | binary i listed =>
    match i with
    | 0 | 1 | 2 | 3 | 4 | 5 =>
      cases listed
      decide
    | i + 6 => simp at listed
  | decimal i listed =>
    match i with
    | 0 | 1 | 2 | 3 | 4 | 5 | 6 | 7 | 8 | 9 =>
      cases listed
      decide
    | i + 10 => simp at listed
  | @exponent mark number n hm hn low high =>
    obtain ⟨c, last, digit⟩ := hn.exists_getLast?_cons mark
    have read : Digits.readInt32? number = some n := Digits.readInt32?_eq_some_iff.2 ⟨hn, low, high⟩
    unfold Scale.ofSuffix?
    dsimp only
    rw [lookup_of_digit last digit (by decide), lookup_of_digit last digit (by decide)]
    rcases hm with rfl | rfl <;> exact congrArg (Option.map _) read

theorem binarySuffixes_eq : binarySuffixes =
    ["Ki", "Mi", "Gi", "Ti", "Pi", "Ei"].mapIdx fun i name => (name, 10 * (i + 1)) := rfl

theorem decimalSuffixes_eq : decimalSuffixes =
    ["n", "u", "m", "", "k", "M", "G", "T", "P", "E"].mapIdx
      fun i name => (name, 3 * (i : Int) - 9) := by decide

/-- **Suffixes.**  A suffix is read exactly where it is that of a unit, or an exponent. -/
theorem ofSuffix?_eq_some_iff : ofSuffix? suffix = some scale ↔ Writes suffix scale := by
  refine ⟨fun h => ?_, Writes.ofSuffix?⟩
  have listed {α : Type} {l : List (String × α)} {a : α}
      (found : l.lookup (String.ofList suffix) = some a) :
      ∃ name, suffix = name.toList ∧ (name, a) ∈ l := by
    obtain ⟨before, after, rfl, -⟩ := List.lookup_eq_some_iff.1 found
    exact ⟨_, String.toList_ofList.symm, by simp⟩
  unfold Scale.ofSuffix? at h
  dsimp only at h
  split at h
  · next shift _ found =>
    obtain ⟨name, rfl, mem⟩ := listed found
    cases h
    rw [binarySuffixes_eq] at mem
    obtain ⟨i, hi, entry⟩ := List.mem_mapIdx.1 mem
    cases entry
    exact .binary i (List.getElem?_eq_getElem hi)
  · next power _ found =>
    obtain ⟨name, rfl, mem⟩ := listed found
    cases h
    rw [decimalSuffixes_eq] at mem
    obtain ⟨i, hi, entry⟩ := List.mem_mapIdx.1 mem
    cases entry
    exact .decimal i (List.getElem?_eq_getElem hi)
  · have exponent {mark : Char} {rest : List Char} (hm : mark = 'e' ∨ mark = 'E')
        (h : (Digits.readInt32? rest).map Scale.exponent = some scale) :
        Writes (mark :: rest) scale := by
      obtain ⟨n, read, rfl⟩ := Option.map_eq_some_iff.1 h
      obtain ⟨number, low, high⟩ := Digits.readInt32?_eq_some_iff.1 read
      exact .exponent hm number low high
    split at h
    · exact exponent (.inl rfl) h
    · exact exponent (.inr rfl) h
    · cases h

end Scale

end FleetMend
