import FleetMend.Proofs.Quantity.Grammar
import Mathlib.Data.Rat.Floor
import Mathlib.Tactic.FieldSimp

/-!
What the text of a size stands for.

* `Scale.Fits`: the numbers that come up while the size is computed fit their words.
* `Quantity.scaled?_eq_some_iff`: where they do, the size is the exact number rounded up.
* `Quantity.Means`: the grammar of the texts, with the size that each stands for or the reason why
  it stands for none.
* `Quantity.read_eq_iff`: that, and nothing else, is read.
-/

namespace FleetMend

/-! ### The exact size -/

namespace Scale

/-- The number of units, over a power of ten. -/
def numerator (mantissa places : Nat) : Scale → Nat
  | binary shift => mantissa * 2 ^ shift
  | decimal power | exponent power => mantissa * 10 ^ (power - places).toNat

/-- The power of ten that it is over. -/
def denominator (places : Nat) : Scale → Nat
  | binary _ => 10 ^ places
  | decimal power | exponent power => 10 ^ (places - power).toNat

/-- The power of ten that is applied and the number of units fit words of 128 bits. -/
def Fits (mantissa places : Nat) (scale : Scale) : Prop :=
  scale.numerator mantissa places < 2 ^ 128 ∧ scale.denominator places < 2 ^ 128 ∧
    match scale with
    | binary _ => True
    | decimal power | exponent power => 10 ^ (power - places).toNat < 2 ^ 128

theorem denominator_pos (places : Nat) (scale : Scale) : 0 < scale.denominator places := by
  cases scale <;> exact Nat.pow_pos (by decide)

/-- The fraction is the number that is scaled. -/
theorem numerator_div_denominator (mantissa places : Nat) (scale : Scale) :
    (scale.numerator mantissa places / scale.denominator places : ℚ) =
      mantissa / 10 ^ places * scale.factor := by
  have ten (n : Int) : (10 : ℚ) ^ n = 10 ^ n.toNat / 10 ^ (-n).toNat := by
    obtain ⟨m, rfl | rfl⟩ := Int.eq_nat_or_neg n
    · simp
    · simp
  have shifted (power : Int) :
      ((mantissa * 10 ^ (power - places).toNat : Nat) / (10 ^ (places - power).toNat : Nat) : ℚ) =
        mantissa / 10 ^ places * 10 ^ power := by
    have unit : (10 : ℚ) ^ power = 10 ^ (power - places) * 10 ^ places := by
      rw [← zpow_natCast, ← zpow_add₀ (by norm_num), Int.sub_add_cancel]
    rw [unit, ten (power - places), neg_sub]
    push_cast
    field_simp
  cases scale with
  | binary shift =>
    simp only [numerator, denominator, factor]
    push_cast
    ring
  | decimal power => exact shifted power
  | exponent power => exact shifted power

end Scale

namespace Quantity

variable {mantissa places n p a b : Nat} {scale : Scale} {negative : Bool} {v : Int64}

theorem pow10?_eq_some_iff : pow10? n = some p ↔ 10 ^ n < 2 ^ 128 ∧ 10 ^ n = p := by
  have fits : n ≤ 38 ↔ 10 ^ n < 2 ^ 128 := by
    constructor
    · intro h
      exact (Nat.pow_le_pow_right (by decide) h).trans_lt (by norm_num)
    · intro h
      by_contra more
      have big : 10 ^ 39 ≤ 10 ^ n := Nat.pow_le_pow_right (by decide) (by omega)
      have word : 2 ^ 128 < 10 ^ 39 := by norm_num
      omega
  simp [pow10?, fits]

theorem mul128?_eq_some_iff : mul128? a b = some p ↔ a * b < 2 ^ 128 ∧ a * b = p := by
  simp [mul128?, fitsNat128]

theorem ratio?_binary {shift : Nat} {r : Nat × Nat} :
    ratio? mantissa places (.binary shift) = some r ↔
      (mantissa * 2 ^ shift < 2 ^ 128 ∧ 10 ^ places < 2 ^ 128) ∧
        r = (mantissa * 2 ^ shift, 10 ^ places) := by
  obtain ⟨n, d⟩ := r
  simp only [ratio?, bind, Option.bind_eq_some_iff, mul128?_eq_some_iff, pow10?_eq_some_iff,
    Option.some.injEq, Prod.mk.injEq, Nat.pow_eq]
  constructor
  · rintro ⟨_, ⟨hn, rfl⟩, _, ⟨hd, rfl⟩, rfl, rfl⟩
    exact ⟨⟨hn, hd⟩, rfl, rfl⟩
  · rintro ⟨⟨hn, hd⟩, rfl, rfl⟩
    exact ⟨_, ⟨hn, rfl⟩, _, ⟨hd, rfl⟩, rfl, rfl⟩

theorem ratio?_power {power : Int} {r : Nat × Nat} (small : mantissa < 2 ^ 128)
    (h : scale = .decimal power ∨ scale = .exponent power) :
    ratio? mantissa places scale = some r ↔
      (mantissa * 10 ^ (power - places).toNat < 2 ^ 128 ∧ 10 ^ (places - power).toNat < 2 ^ 128 ∧
        10 ^ (power - places).toNat < 2 ^ 128) ∧
        r = (mantissa * 10 ^ (power - places).toNat, 10 ^ (places - power).toNat) := by
  obtain ⟨n, d⟩ := r
  have unfolded : ratio? mantissa places scale =
      if 0 ≤ power - places then
        (pow10? (power - places).toNat).bind fun p => (mul128? mantissa p).map (·, 1)
      else (pow10? (-(power - places)).toNat).map (mantissa, ·) := by
    rcases h with rfl | rfl <;> simp [ratio?, bind, Option.map_eq_bind]
  rw [unfolded]
  by_cases above : 0 ≤ power - places
  · have none : (places - power).toNat = 0 := by omega
    rw [if_pos above, none, pow_zero]
    simp only [Option.bind_eq_some_iff, Option.map_eq_some_iff, pow10?_eq_some_iff,
      mul128?_eq_some_iff, Prod.mk.injEq]
    constructor
    · rintro ⟨_, ⟨ten, rfl⟩, _, ⟨units, rfl⟩, rfl, rfl⟩
      exact ⟨⟨units, by norm_num, ten⟩, rfl, rfl⟩
    · rintro ⟨⟨units, -, ten⟩, rfl, rfl⟩
      exact ⟨_, ⟨ten, rfl⟩, _, ⟨units, rfl⟩, rfl, rfl⟩
  · have none : (power - places).toNat = 0 := by omega
    rw [if_neg above, none, pow_zero, Nat.mul_one, neg_sub]
    simp only [Option.map_eq_some_iff, pow10?_eq_some_iff, Prod.mk.injEq]
    constructor
    · rintro ⟨_, ⟨ten, rfl⟩, rfl, rfl⟩
      exact ⟨⟨small, ten, by norm_num⟩, rfl, rfl⟩
    · rintro ⟨⟨-, ten, -⟩, rfl, rfl⟩
      exact ⟨_, ⟨ten, rfl⟩, rfl, rfl⟩

theorem ratio?_eq_some_iff {r : Nat × Nat} (small : mantissa < 2 ^ 128) :
    ratio? mantissa places scale = some r ↔
      scale.Fits mantissa places ∧
        r = (scale.numerator mantissa places, scale.denominator places) := by
  cases scale with
  | binary shift =>
    rw [ratio?_binary]
    exact and_congr_left' (and_congr_right' (and_true _).symm.to_iff)
  | decimal power => exact ratio?_power small (.inl rfl)
  | exponent power => exact ratio?_power small (.inr rfl)

/-- With a sign. -/
def withSign {α : Type} [Neg α] (negative : Bool) (x : α) : α := if negative then -x else x

/-- The fraction is rounded up, with its sign. -/
theorem withSign_roundUp (negative : Bool) (n : Nat) {d : Nat} (hd : 0 < d) :
    withSign negative (roundUp negative n d : Int) = ⌈withSign negative (n / d : ℚ)⌉ := by
  cases negative with
  | true =>
    have down : roundUp true n d = n / d := by simp [roundUp]
    rw [down, withSign, withSign, if_pos rfl, if_pos rfl, Int.ceil_neg, Rat.floor_natCast_div_natCast,
      Int.natCast_ediv]
  | false =>
    have up : ⌈(n / d : ℚ)⌉ = -(-(n : Int) / d) := by
      simpa using Rat.ceil_intCast_div_natCast n d
    rw [withSign, withSign, if_neg (by decide), if_neg (by decide), up, Int.neg_ediv,
      Int.sign_eq_one_of_pos (by omega)]
    by_cases rest : n % d = 0
    · have divides : (d : Int) ∣ n := Int.natCast_dvd_natCast.2 (Nat.dvd_of_mod_eq_zero rest)
      simp [roundUp, rest, divides]
    · have divides : ¬(d : Int) ∣ n := fun h =>
        rest (Nat.mod_eq_zero_of_dvd (Int.natCast_dvd_natCast.1 h))
      simp [roundUp, rest, divides]
      omega

theorem signed?_eq_some_iff :
    signed? negative n = some v ↔ n < 2 ^ 63 ∧ v.toInt = withSign negative (n : Int) := by
  have number (small : n < 2 ^ 63) :
      (Int64.ofInt (withSign negative (n : Int))).toInt = withSign negative (n : Int) := by
    unfold withSign
    exact Int64.toInt_ofInt_of_le (by split <;> omega) (by split <;> omega)
  simp only [signed?, Nat.pow_eq, Option.ite_none_right_eq_some, Option.some.injEq]
  refine and_congr_right fun small => ?_
  change Int64.ofInt (withSign negative (n : Int)) = v ↔ _
  rw [← Int64.toInt_inj, number small, eq_comm]

theorem natAbs_withSign (negative : Bool) (n : Int) : (withSign negative n).natAbs = n.natAbs := by
  cases negative
  · rfl
  · exact Int.natAbs_neg n

/-- The size is the scaled number rounded up, if it is in range. -/
theorem scaled?_eq_some_iff (small : mantissa < 2 ^ 128) :
    scaled? negative mantissa places scale = some v ↔
      scale.Fits mantissa places ∧
        ⌈withSign negative (mantissa / 10 ^ places * scale.factor : ℚ)⌉.natAbs < 2 ^ 63 ∧
        v.toInt = ⌈withSign negative (mantissa / 10 ^ places * scale.factor : ℚ)⌉ := by
  have up := withSign_roundUp negative (scale.numerator mantissa places)
    (scale.denominator_pos places)
  rw [Scale.numerator_div_denominator] at up
  rw [← up, natAbs_withSign, Int.natAbs_natCast, scaled?]
  simp only [Option.bind_eq_some_iff, ratio?_eq_some_iff small, signed?_eq_some_iff]
  constructor
  · rintro ⟨_, ⟨fits, rfl⟩, signed⟩
    exact ⟨fits, signed⟩
  · rintro ⟨fits, signed⟩
    exact ⟨_, ⟨fits, rfl⟩, signed⟩

/-! ### The grammar -/

/-- The text is a sign, a number whose digits fit a word of 128 bits, and a suffix. -/
structure Parts (text sign : List Char) (d : Decimal) (suffix : List Char) : Prop where
  split : ∃ number, Split text sign number suffix ∧ d.Writes number
  digits : d.mantissa < 2 ^ 128

end Quantity

/-- The exact size, with its sign, rounded up to whole bytes. -/
def Decimal.bytes (d : Decimal) (sign : List Char) (scale : Scale) : Int :=
  ⌈Quantity.withSign (sign = ['-']) (d.exact * scale.factor)⌉

namespace Quantity

/-- What a text stands for: a size, or the reason why it stands for none. -/
inductive Means (input : String) : Except QuantityError Quantity → Prop
  | empty (h : input = "") : Means input (.error .empty)
  | malformed {sign number suffix : List Char} (h : input ≠ "")
      (split : Split input.toList sign number suffix) (malformed : ¬WellFormed number) :
      Means input (.error (.invalidNumber input))
  | tooManyDigits {sign number suffix : List Char} {d : Decimal}
      (split : Split input.toList sign number suffix) (written : d.Writes number)
      (digits : 2 ^ 128 ≤ d.mantissa) : Means input (.error (.invalidNumber input))
  | unknownSuffix {sign suffix : List Char} {d : Decimal}
      (parts : Parts input.toList sign d suffix) (unknown : ∀ scale, ¬Scale.Writes suffix scale) :
      Means input (.error (.unknownSuffix input (String.ofList suffix)))
  | outOfRange {sign suffix : List Char} {d : Decimal} {scale : Scale}
      (parts : Parts input.toList sign d suffix) (known : Scale.Writes suffix scale)
      (beyond : scale.Fits d.mantissa d.places → 2 ^ 63 ≤ (d.bytes sign scale).natAbs) :
      Means input (.error (.outOfRange input))
  | size {sign suffix : List Char} {d : Decimal} {scale : Scale} {v : Int64}
      (parts : Parts input.toList sign d suffix) (known : Scale.Writes suffix scale)
      (fits : scale.Fits d.mantissa d.places) (range : (d.bytes sign scale).natAbs < 2 ^ 63)
      (value : v.toInt = d.bytes sign scale) : Means input (.ok ⟨v, scale.form⟩)

section

variable {input : String} {sign number suffix : List Char} {d : Decimal}
  {out : Except QuantityError Quantity}

theorem read_of_split (h : input ≠ "") (split : Split input.toList sign number suffix) :
    read input = match mantissa? number with
      | none => .error (.invalidNumber input)
      | some (mantissa, places) => match Scale.ofSuffix? suffix with
        | none => .error (.unknownSuffix input (String.ofList suffix))
        | some scale => match scaled? (sign = ['-']) mantissa places scale with
          | none => .error (.outOfRange input)
          | some value => .ok ⟨value, scale.form⟩ := by
  have some_char : input.isEmpty = false :=
    Bool.eq_false_iff.2 fun empty => h (String.isEmpty_iff.1 empty)
  have minus : decide (input.toList.head? = some '-') = decide (sign = ['-']) :=
    decide_eq_decide.2 split.head?_eq_minus_iff
  simp only [read, some_char, split.unsigned, split.takeWhile, split.dropWhile, minus]
  rfl

/-- Where a number is written the text is not empty. -/
theorem Split.ne_empty (split : Split input.toList sign number suffix) (written : d.Writes number) :
    input ≠ "" := by
  rintro rfl
  have parts : [] = sign ++ (number ++ suffix) := split.text_eq
  exact written.ne_nil (List.append_eq_nil_iff.1 (List.append_eq_nil_iff.1 parts.symm).2).1

theorem Parts.read (h : Parts input.toList sign d suffix) :
    read input = match Scale.ofSuffix? suffix with
      | none => .error (.unknownSuffix input (String.ofList suffix))
      | some scale => match scaled? (sign = ['-']) d.mantissa d.places scale with
        | none => .error (.outOfRange input)
        | some value => .ok ⟨value, scale.form⟩ := by
  obtain ⟨⟨number, split, written⟩, digits⟩ := h
  rw [read_of_split (split.ne_empty written) split, written.mantissa?, if_pos digits]

theorem Parts.scaled?_eq_some_iff (h : Parts input.toList sign d suffix) {scale : Scale} :
    scaled? (sign = ['-']) d.mantissa d.places scale = some v ↔
      scale.Fits d.mantissa d.places ∧ (d.bytes sign scale).natAbs < 2 ^ 63 ∧
        v.toInt = d.bytes sign scale := by
  rw [Quantity.scaled?_eq_some_iff h.digits, ← d.exact_eq]
  rfl

theorem Means.read (h : Means input out) : read input = out := by
  cases h with
  | empty h => rw [h]; rfl
  | malformed h split malformed =>
    rw [read_of_split h split, mantissa?_of_not_wellFormed split.numeric malformed]
  | tooManyDigits split written digits =>
    rw [read_of_split (split.ne_empty written) split, written.mantissa?,
      if_neg (Nat.not_lt.2 digits)]
  | unknownSuffix parts unknown =>
    have unread : Scale.ofSuffix? _ = none := Option.eq_none_iff_forall_ne_some.2 fun scale h =>
      unknown scale (Scale.ofSuffix?_eq_some_iff.1 h)
    rw [parts.read, unread]
  | outOfRange parts known beyond =>
    have none : scaled? _ _ _ _ = none := Option.eq_none_iff_forall_ne_some.2 fun v h => by
      obtain ⟨fits, range, -⟩ := parts.scaled?_eq_some_iff.1 h
      exact Nat.not_lt.2 (beyond fits) range
    rw [parts.read, known.ofSuffix?]
    dsimp only
    rw [none]
  | size parts known fits range value =>
    rw [parts.read, known.ofSuffix?]
    dsimp only
    rw [parts.scaled?_eq_some_iff.2 ⟨fits, range, value⟩]

/-- Every text stands for something. -/
theorem exists_means (input : String) : ∃ out, Means input out := by
  by_cases h : input = ""
  · exact ⟨_, .empty h⟩
  obtain ⟨sign, number, suffix, split⟩ := exists_split input.toList
  by_cases wellFormed : WellFormed number
  · obtain ⟨d, written⟩ := (wellFormed_iff_exists_writes split.numeric).1 wellFormed
    by_cases digits : d.mantissa < 2 ^ 128
    · have parts : Parts input.toList sign d suffix := ⟨⟨number, split, written⟩, digits⟩
      by_cases known : ∃ scale, Scale.Writes suffix scale
      · obtain ⟨scale, known⟩ := known
        by_cases ok : scale.Fits d.mantissa d.places ∧ (d.bytes sign scale).natAbs < 2 ^ 63
        · have value : (Int64.ofInt (d.bytes sign scale)).toInt = d.bytes sign scale :=
            Int64.toInt_ofInt_of_le (by omega) (by omega)
          exact ⟨_, .size parts known ok.1 ok.2 value⟩
        · exact ⟨_, .outOfRange parts known fun fits => Nat.not_lt.1 fun range => ok ⟨fits, range⟩⟩
      · exact ⟨_, .unknownSuffix parts (not_exists.1 known)⟩
    · exact ⟨_, .tooManyDigits split written (Nat.not_lt.1 digits)⟩
  · exact ⟨_, .malformed h split wellFormed⟩

theorem means_read (input : String) : Means input (read input) := by
  obtain ⟨out, means⟩ := exists_means input
  exact means.read.symm ▸ means

/-- **The grammar of sizes.**  A text is read as what it stands for. -/
theorem read_eq_iff : read input = out ↔ Means input out :=
  ⟨fun h => h ▸ means_read input, Means.read⟩

end

end Quantity

end FleetMend
