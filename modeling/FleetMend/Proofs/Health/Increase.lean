import FleetMend.Health.Capacity
import FleetMend.Proofs.Quantity.Meaning

/-!
What an increase makes of a size.

* `hundredths_eq`: a share in hundredths is rounded to the nearest whole number, a half away from
  zero.  `hundredths_mono`: of more the share is no less.
* `Share.readPercent_of_read`: no text is both a percentage and a size.
* `nextCapacity_of_percent`, `nextCapacity_of_not_percent`: the size after an increase by the one and
  by the other.
* `AutoscaleSpec.Rises`: the increase is a percentage or a size that is not negative.
* `AutoscaleSpec.Rises.exists_monotone`: a larger size does not become less by such an increase than
  a smaller one does.
-/

namespace FleetMend

/-! ### Hundredths -/

theorem hundredths_eq (value percent : Int) :
    hundredths value percent =
      if 0 ≤ value * percent then (value * percent + 50) / 100
      else -((50 - value * percent) / 100) := by
  unfold hundredths
  dsimp only
  generalize value * percent = product
  rcases Int.lt_trichotomy product 0 with neg | rfl | pos
  · rw [Int.sign_eq_neg_one_of_neg neg, if_neg (by omega)]
    omega
  · rfl
  · rw [Int.sign_eq_one_of_pos pos, if_pos (by omega)]
    omega

theorem hundredths_mono {a b percent : Int} (nonneg : 0 ≤ percent) (h : a ≤ b) :
    hundredths a percent ≤ hundredths b percent := by
  have products : a * percent ≤ b * percent := Int.mul_le_mul_of_nonneg_right h nonneg
  rw [hundredths_eq, hundredths_eq]
  split <;> split <;> omega

/-! ### Shares that are not negative -/

namespace Binary64

theorem nearestSize_nonneg (n d : Nat) : 0 ≤ nearestSize n d := by
  unfold nearestSize
  split
  · exact le_refl 0
  · dsimp only
    split
    · exact mul_nonneg (Nat.cast_nonneg _) (Nat.cast_nonneg _)
    · exact Rat.mkRat_nonneg (Int.natCast_nonneg _) _

theorem nearest_nonneg {q : Rat} (h : 0 ≤ q) : 0 ≤ nearest q := by
  rw [nearest, if_neg (not_lt.2 h)]
  exact nearestSize_nonneg _ _

end Binary64

namespace Share

theorem saturate_nonneg {n : Int} (h : 0 ≤ n) : 0 ≤ (saturate n).toInt := by
  unfold saturate
  rw [Int64.toInt_ofInt_of_le (by simp) (by simp)]
  omega

theorem percentOf_nonneg {p total : Int64} (hp : 0 ≤ p.toInt) (ht : 0 ≤ total.toInt) :
    0 ≤ percentOf p total := by
  have size (n : Int64) (h : 0 ≤ n.toInt) : 0 ≤ Binary64.nearest n.toInt :=
    Binary64.nearest_nonneg (Int.cast_nonneg h)
  exact Binary64.nearest_nonneg
    (div_nonneg (Binary64.nearest_nonneg (mul_nonneg (size p hp) (size total ht))) (by norm_num))

/-- A percentage that is not negative is a share that is not. -/
theorem percentOfRounded_nonneg {p total : Int64} (hp : 0 ≤ p.toInt) (ht : 0 ≤ total.toInt) :
    0 ≤ (percentOfRounded p total false).toInt :=
  saturate_nonneg (Rat.le_floor_iff.2 (by simpa using percentOf_nonneg hp ht))

end Share

/-! ### Percentages and sizes -/

/-- No suffix ends in a percent sign. -/
theorem Scale.Writes.getLast?_ne {suffix : List Char} {scale : Scale} (h : Writes suffix scale) :
    suffix.getLast? ≠ some '%' := by
  have unlisted {names : List String} {name : String} {i : Nat} (listed : names[i]? = some name)
      (ends : ∀ name ∈ names, name.toList.getLast? ≠ some '%') :
      name.toList.getLast? ≠ some '%' := ends name (List.mem_of_getElem? listed)
  cases h with
  | binary i listed => exact unlisted listed (by decide)
  | decimal i listed => exact unlisted listed (by decide)
  | @exponent mark _ _ _ written =>
    obtain ⟨c, last, digit⟩ := written.exists_getLast?_cons mark
    rw [last]
    rintro ⟨⟩
    cases digit

/-- No text of a size ends in a percent sign. -/
theorem Quantity.read_percent {input : String} {cs : List Char}
    (h : input.toList = cs ++ ['%']) (q : Quantity) : read input ≠ .ok q := by
  intro hread
  have means := means_read input
  rw [hread] at means
  cases means with
  | @size _ suffix d _ _ parts known =>
    obtain ⟨⟨number, split, written⟩, -⟩ := parts
    have last : input.toList.getLast? = some '%' := by rw [h, List.getLast?_concat]
    rw [split.text_eq, List.getLast?_append, List.getLast?_append] at last
    -- The percent sign is no part of the suffix, nor of the number where there is no suffix.
    cases hs : suffix.getLast? with
    | some c =>
      rw [hs, Option.some_or, Option.some_or] at last
      exact known.getLast?_ne (hs.trans last)
    | none =>
      have hn : number.getLast? = some (number.getLast written.ne_nil) :=
        List.getLast?_eq_some_getLast written.ne_nil
      rw [hs, Option.none_or, hn, Option.some_or, ← hn] at last
      exact absurd (split.numeric _ (List.mem_of_getLast? last)) (by decide)

/-- No text is both a percentage and a size. -/
theorem Share.readPercent_of_read {input : String} {q : Quantity}
    (h : Quantity.read input = .ok q) : readPercent input = .error .notAPercentage := by
  unfold readPercent
  split
  · next rest hr =>
    exact absurd h (Quantity.read_percent (List.reverse_eq_cons_iff.1 hr) q)
  · rfl

/-! ### Sizes after an increase -/

/-- The increase is a percentage or a size, and not negative. -/
def AutoscaleSpec.Rises (spec : AutoscaleSpec) : Prop :=
  (∃ p, Share.readPercent spec.increase = .ok p ∧ 0 ≤ p.toInt) ∨
    ∃ q, Quantity.read spec.increase = .ok q ∧ 0 ≤ q.value.toInt

section

variable {increase : String} {current next : Quantity}

/-- By a percentage a size grows by its share in hundredths, as far as both are in range. -/
theorem nextCapacity_of_percent {percent : Int64}
    (h : (Share.text increase).resolve 100 false = .ok percent) :
    nextCapacity current increase =
      ((int64OfInt? (hundredths current.value.toInt percent.toInt)).bind fun n =>
        current.grow? n.toInt).elim (.error (.capacityOverflow increase)) .ok := by
  unfold nextCapacity
  rw [h]
  dsimp only
  cases (int64OfInt? (hundredths current.value.toInt percent.toInt)).bind fun n =>
    current.grow? n.toInt <;> rfl

/-- By any other text it grows by the size that the text writes. -/
theorem nextCapacity_of_not_percent {e : QuantityError}
    (h : (Share.text increase).resolve 100 false = .error e) :
    nextCapacity current increase = match Quantity.read increase with
      | .ok size => (current.grow? size.value.toInt).elim (.error (.capacityOverflow increase)) .ok
      | .error e' => .error (.invalidIncrease increase ⟨[e, e']⟩) := by
  unfold nextCapacity
  rw [h]
  dsimp only
  cases Quantity.read increase with
  | error e' => rfl
  | ok size =>
    change _ = (current.checkedAdd size).elim _ _
    dsimp only
    cases current.checkedAdd size <;> rfl

theorem elim_eq_ok_iff {grown : Option Quantity} {e : HealthError} :
    grown.elim (Except.error e) Except.ok = .ok next ↔ grown = some next := by
  cases grown <;> simp

theorem value_nextCapacity_of_percent {percent : Int64}
    (h : (Share.text increase).resolve 100 false = .ok percent)
    (computed : nextCapacity current increase = .ok next) :
    next.value.toInt = current.value.toInt + hundredths current.value.toInt percent.toInt := by
  rw [nextCapacity_of_percent h, elim_eq_ok_iff] at computed
  obtain ⟨n, hn, grows⟩ := Option.bind_eq_some_iff.1 computed
  rw [Quantity.value_of_grow? grows, int64OfInt?_eq_some_iff.1 hn]

theorem value_nextCapacity_of_size {size : Quantity} (h : Quantity.read increase = .ok size)
    (computed : nextCapacity current increase = .ok next) :
    next.value.toInt = current.value.toInt + size.value.toInt := by
  have text : (Share.text increase).resolve 100 false = .error .notAPercentage := by
    rw [Share.resolve, Share.readPercent_of_read h]
    rfl
  rw [nextCapacity_of_not_percent text, h] at computed
  exact Quantity.value_of_grow? (elim_eq_ok_iff.1 computed)

end

/-- Where the increase is not negative, of two sizes the larger stays the larger. -/
theorem AutoscaleSpec.Rises.exists_monotone {spec : AutoscaleSpec} (h : spec.Rises) :
    ∃ f : Int → Int, (∀ a b, a ≤ b → f a ≤ f b) ∧ ∀ current next,
      nextCapacity current spec.increase = .ok next → next.value.toInt = f current.value.toInt := by
  rcases h with ⟨p, hp, nonneg⟩ | ⟨q, hq, -⟩
  · have share : (Share.text spec.increase).resolve 100 false =
        .ok (Share.percentOfRounded p 100 false) := by
      rw [Share.resolve, hp]
      rfl
    refine ⟨fun n => n + hundredths n (Share.percentOfRounded p 100 false).toInt, ?_,
      fun _ _ computed => value_nextCapacity_of_percent share computed⟩
    exact fun a b hab =>
      Int.add_le_add hab (hundredths_mono (Share.percentOfRounded_nonneg nonneg (by decide)) hab)
  · exact ⟨fun n => n + q.value.toInt, fun a b hab => Int.add_le_add_right hab _,
      fun _ _ computed => value_nextCapacity_of_size hq computed⟩

end FleetMend
