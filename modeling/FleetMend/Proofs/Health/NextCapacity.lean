import FleetMend.Proofs.Health.Increase
import FleetMend.Proofs.Text.WholeNumber

/-!
The size after one increase.

* `Share.Percentage`: the texts that are percentages, and how many hundredths each is.
* `hundredths_eq_nearestAway`: a share is the exact one, rounded.
* `Enlarged`: what becomes of a size by a percentage, by a size and by any other text.
* `nextCapacity_eq_iff`: that, and nothing else, is computed.
* `nextCapacity_arithmetic`: by a percentage that is not negative a size of no less than nothing
  becomes the exact multiple, rounded.
-/

namespace FleetMend

/-! ### Percentages -/

theorem Digits.readInt64?_eq_some_iff {cs : List Char} {n : Int64} :
    readInt64? cs = some n ↔ Writes cs n.toInt := by
  change (readInt? cs).bind int64OfInt? = some n ↔ _
  simp [Option.bind_eq_some_iff, int64OfInt?_eq_some_iff, readInt?_eq_some_iff]

namespace Share

variable {raw : String} {p n : Int64}

theorem readPercent_eq_ok_iff :
    readPercent raw = .ok n ↔
      ∃ number, raw.toList = number ++ ['%'] ∧ Digits.Writes number n.toInt := by
  simp only [← Digits.readInt64?_eq_some_iff]
  constructor
  · intro read
    unfold readPercent at read
    split at read
    · next rest reversed =>
      refine ⟨rest.reverse, List.reverse_eq_cons_iff.1 reversed, ?_⟩
      split at read
      · next written => exact written.trans (congrArg some (Except.ok.inj read))
      · cases read
    · cases read
  · rintro ⟨number, split, written⟩
    simp [readPercent, split, written]

/-- The text is a whole number in the range of a word of 64 bits and a percent sign; it is so many
hundredths. -/
def Percentage (raw : String) (p : Int64) : Prop :=
  ∃ (number : List Char) (n : Int64), raw.toList = number ++ ['%'] ∧
    Digits.Writes number n.toInt ∧ p = percentOfRounded n 100 false

/-- Why a text is no percentage. -/
def whyNot (raw : String) : QuantityError :=
  if raw.toList.getLast? = some '%' then .invalidPercentage raw else .notAPercentage

theorem Percentage.resolve (h : Percentage raw p) : (text raw).resolve 100 false = .ok p := by
  obtain ⟨number, n, split, written, rfl⟩ := h
  rw [Share.resolve, readPercent_eq_ok_iff.2 ⟨number, split, written⟩]
  rfl

theorem resolve_of_not_percentage (h : ∀ p, ¬Percentage raw p) :
    (text raw).resolve 100 false = .error (whyNot raw) := by
  have percent : readPercent raw = .error (whyNot raw) := by
    unfold readPercent whyNot
    split
    · next rest reversed =>
      have split := List.reverse_eq_cons_iff.1 reversed
      rw [if_pos (by rw [split, List.getLast?_concat])]
      cases read : Digits.readInt64? rest.reverse with
      | none => rfl
      | some n => exact (h _ ⟨_, n, split, Digits.readInt64?_eq_some_iff.1 read, rfl⟩).elim
    · next other =>
      have last : raw.toList.getLast? ≠ some '%' := fun last => by
        obtain ⟨front, split⟩ := List.getLast?_eq_some_iff.1 last
        exact other front.reverse (by rw [split, List.reverse_concat])
      rw [if_neg last]
  rw [Share.resolve, percent]
  rfl

end Share

/-! ### Rounding -/

/-- The nearest whole number, a half away from zero. -/
def nearestAway (x : ℚ) : ℤ := if 0 ≤ x then round x else -round (-x)

/-- A share in hundredths is the exact share, rounded. -/
theorem hundredths_eq_nearestAway (value percent : Int) :
    hundredths value percent = nearestAway (value * percent / 100) := by
  have half (n : Int) : round (n / 100 : ℚ) = (n + 50) / 100 := by
    have sum : (n / 100 + 1 / 2 : ℚ) = (n + 50 : Int) / (100 : Nat) := by
      push_cast
      ring
    rw [round_eq, sum, Rat.floor_intCast_div_natCast]
    rfl
  have sign : (0 : ℚ) ≤ value * percent / 100 ↔ 0 ≤ value * percent := by
    rw [le_div_iff₀ (by norm_num), zero_mul]
    exact_mod_cast Iff.rfl
  rw [hundredths_eq, nearestAway]
  simp only [sign]
  split
  · rw [← half, Int.cast_mul]
  · have negated : (-(value * percent / 100) : ℚ) = (-(value * percent) : Int) / 100 := by
      push_cast
      ring
    rw [negated, half]
    congr 2
    omega

/-! ### Sizes after an increase -/

/-- What becomes of a size by an increase. -/
inductive Enlarged (current : Quantity) (increase : String) : Except HealthError Quantity → Prop
  | share {p v : Int64} {share : Int} (percentage : Share.Percentage increase p)
      (rounded : share = nearestAway (current.value.toInt * p.toInt / 100))
      (fits : fitsInt64 share = true) (value : v.toInt = current.value.toInt + share) :
      Enlarged current increase (.ok ⟨v, current.form⟩)
  | shareOverflow {p : Int64} {share : Int} (percentage : Share.Percentage increase p)
      (rounded : share = nearestAway (current.value.toInt * p.toInt / 100))
      (beyond : ¬(fitsInt64 share = true ∧ fitsInt64 (current.value.toInt + share) = true)) :
      Enlarged current increase (.error (.capacityOverflow increase))
  | size {q : Quantity} {v : Int64} (other : ∀ p, ¬Share.Percentage increase p)
      (read : Quantity.read increase = .ok q)
      (value : v.toInt = current.value.toInt + q.value.toInt) :
      Enlarged current increase (.ok ⟨v, current.form⟩)
  | sizeOverflow {q : Quantity} (other : ∀ p, ¬Share.Percentage increase p)
      (read : Quantity.read increase = .ok q)
      (beyond : ¬fitsInt64 (current.value.toInt + q.value.toInt) = true) :
      Enlarged current increase (.error (.capacityOverflow increase))
  | neither {e : QuantityError} (other : ∀ p, ¬Share.Percentage increase p)
      (unread : Quantity.read increase = .error e) :
      Enlarged current increase (.error (.invalidIncrease increase ⟨[Share.whyNot increase, e]⟩))

section

variable {current : Quantity} {increase : String} {out : Except HealthError Quantity}

/-- A size grows by so many bytes in its own notation, if it stays in range. -/
theorem Quantity.grow?_eq_some_iff {next : Quantity} {n : Int} : current.grow? n = some next ↔
    next.form = current.form ∧ next.value.toInt = current.value.toInt + n := by
  simp only [grow?, Option.map_eq_some_iff, int64OfInt?_eq_some_iff]
  constructor
  · rintro ⟨v, value, rfl⟩
    exact ⟨rfl, value⟩
  · rintro ⟨form, value⟩
    obtain ⟨v, _⟩ := next
    cases form
    exact ⟨v, value, rfl⟩

theorem Quantity.grow?_of_beyond {n : Int} (h : ¬fitsInt64 (current.value.toInt + n) = true) :
    current.grow? n = none := by
  rw [grow?, int64OfInt?, if_neg h]
  rfl

theorem Share.Percentage.nextCapacity {p : Int64} {share : Int}
    (h : Share.Percentage increase p)
    (rounded : share = nearestAway (current.value.toInt * p.toInt / 100)) :
    nextCapacity current increase =
      (if fitsInt64 share then current.grow? share else none).elim
        (.error (.capacityOverflow increase)) .ok := by
  rw [nextCapacity_of_percent h.resolve, hundredths_eq_nearestAway, ← rounded]
  congr 1
  by_cases fits : fitsInt64 share = true
  · have word : int64OfInt? share = some (Int64.ofInt share) := if_pos fits
    rw [word, Option.bind_some, int64OfInt?_eq_some_iff.1 word, if_pos fits]
  · rw [int64OfInt?, if_neg fits, if_neg fits, Option.bind_none]

theorem Enlarged.nextCapacity (h : Enlarged current increase out) :
    nextCapacity current increase = out := by
  cases h with
  | @share _ v _ percentage rounded fits value =>
    have grown : current.grow? _ = some ⟨v, current.form⟩ :=
      Quantity.grow?_eq_some_iff.2 ⟨rfl, value⟩
    rw [percentage.nextCapacity rounded, if_pos fits, grown]
    rfl
  | shareOverflow percentage rounded beyond =>
    rw [percentage.nextCapacity rounded]
    split
    · next fits =>
      rw [Quantity.grow?_of_beyond fun sum => beyond ⟨fits, sum⟩]
      rfl
    · rfl
  | @size _ v other read value =>
    rw [nextCapacity_of_not_percent (Share.resolve_of_not_percentage other), read]
    have grown : current.grow? _ = some ⟨v, current.form⟩ :=
      Quantity.grow?_eq_some_iff.2 ⟨rfl, value⟩
    dsimp only
    rw [grown]
    rfl
  | sizeOverflow other read beyond =>
    rw [nextCapacity_of_not_percent (Share.resolve_of_not_percentage other), read]
    dsimp only
    rw [Quantity.grow?_of_beyond beyond]
    rfl
  | neither other unread =>
    rw [nextCapacity_of_not_percent (Share.resolve_of_not_percentage other), unread]

theorem exists_toInt_eq {n : Int} (fits : fitsInt64 n = true) : ∃ v : Int64, v.toInt = n :=
  ⟨_, int64OfInt?_eq_some_iff.1 (if_pos fits)⟩

/-- Something becomes of every size by every increase. -/
theorem exists_enlarged (current : Quantity) (increase : String) :
    ∃ out, Enlarged current increase out := by
  by_cases percentage : ∃ p, Share.Percentage increase p
  · obtain ⟨p, percentage⟩ := percentage
    by_cases fits : fitsInt64 (nearestAway (current.value.toInt * p.toInt / 100)) = true ∧
        fitsInt64 (current.value.toInt +
          nearestAway (current.value.toInt * p.toInt / 100)) = true
    · obtain ⟨v, value⟩ := exists_toInt_eq fits.2
      exact ⟨_, .share percentage rfl fits.1 value⟩
    · exact ⟨_, .shareOverflow percentage rfl fits⟩
  · have other := not_exists.1 percentage
    cases read : Quantity.read increase with
    | error e => exact ⟨_, .neither other read⟩
    | ok q =>
      by_cases fits : fitsInt64 (current.value.toInt + q.value.toInt) = true
      · obtain ⟨v, value⟩ := exists_toInt_eq fits
        exact ⟨_, .size other read value⟩
      · exact ⟨_, .sizeOverflow other read fits⟩

/-- **Increase.**  What becomes of a size by an increase is what is computed. -/
theorem nextCapacity_eq_iff :
    nextCapacity current increase = out ↔ Enlarged current increase out := by
  refine ⟨fun h => ?_, Enlarged.nextCapacity⟩
  obtain ⟨out', enlarged⟩ := exists_enlarged current increase
  obtain rfl : out' = out := enlarged.nextCapacity.symm.trans h
  exact enlarged

end

/-! ### Percentages that are not negative -/

section

variable {a b current next : Quantity} {s t increase : String} {p r : Int64} {c : Int}

/-- The share on top of the size is the multiple of the size, rounded. -/
theorem add_nearestAway {c p : Int} (hc : 0 ≤ c) (hp : 0 ≤ p) :
    c + nearestAway (c * p / 100) = round (c * (100 + p) / 100 : ℚ) := by
  have nonneg : (0 : ℚ) ≤ c * p / 100 := by positivity
  rw [nearestAway, if_pos nonneg, ← round_intCast_add]
  congr 1
  ring

/-- Of more, or by more, the multiple is no less. -/
theorem round_multiple_mono {c d p r : Int} (hc : 0 ≤ c) (hcd : c ≤ d) (hp : 0 ≤ p) (hpr : p ≤ r) :
    round (c * (100 + p) / 100 : ℚ) ≤ round (d * (100 + r) / 100 : ℚ) := by
  have hd : 0 ≤ d := hc.trans hcd
  rw [round_eq, round_eq]
  gcongr

theorem le_round_multiple {c p : Int} (hc : 0 ≤ c) (hp : 0 ≤ p) :
    c ≤ round (c * (100 + p) / 100 : ℚ) := by
  have same : round (c * (100 + (0 : Int)) / 100 : ℚ) = c := by
    simp
  calc c = round (c * (100 + (0 : Int)) / 100 : ℚ) := same.symm
    _ ≤ round (c * (100 + p) / 100 : ℚ) := round_multiple_mono hc le_rfl le_rfl hp

/-- Only where the multiple is out of range there is no size. -/
theorem Share.Percentage.nextCapacity_eq_ok_iff (h : Share.Percentage increase p)
    (hc : 0 ≤ current.value.toInt) (hp : 0 ≤ p.toInt) :
    FleetMend.nextCapacity current increase = .ok next ↔ next.form = current.form ∧
      next.value.toInt = round (current.value.toInt * (100 + p.toInt) / 100 : ℚ) := by
  have more := le_round_multiple hc hp
  rw [h.nextCapacity rfl, elim_eq_ok_iff]
  rw [← add_nearestAway hc hp] at more ⊢
  split
  · exact Quantity.grow?_eq_some_iff
  · next beyond =>
    refine iff_of_false (by simp) fun ⟨_, value⟩ => beyond (fitsInt64_iff.2 ?_)
    have high := next.value.toInt_lt
    omega

/-- **Increase by a percentage.**  What becomes of a size by an increase is what is computed.  By a
percentage that is not negative, a size of no less than nothing becomes the multiple, rounded: no
less than it was, and no less the larger it was or the percentage is. -/
theorem nextCapacity_arithmetic :
    (∀ (current : Quantity) (increase : String) (out : Except HealthError Quantity),
      nextCapacity current increase = out ↔ Enlarged current increase out) ∧
    (∀ (current next : Quantity) (increase : String) (p : Int64),
      Share.Percentage increase p → 0 ≤ current.value.toInt → 0 ≤ p.toInt →
      (nextCapacity current increase = .ok next ↔ next.form = current.form ∧
        next.value.toInt = round (current.value.toInt * (100 + p.toInt) / 100 : ℚ)) ∧
      (nextCapacity current increase = .ok next → current ≤ next)) ∧
    ∀ (a b larger : Quantity) (s t : String) (p r : Int64),
      Share.Percentage s p → Share.Percentage t r →
      0 ≤ a.value.toInt → a ≤ b → 0 ≤ p.toInt → p ≤ r → nextCapacity b t = .ok larger →
      ∃ smaller, nextCapacity a s = .ok smaller ∧ smaller ≤ larger := by
  refine ⟨fun _ _ _ => nextCapacity_eq_iff, ?_, ?_⟩
  · intro current next increase p percentage hc hp
    have ok_iff : nextCapacity current increase = .ok next ↔ _ :=
      percentage.nextCapacity_eq_ok_iff hc hp
    refine ⟨ok_iff, fun computed => Quantity.le_iff_toInt_le.2 ?_⟩
    rw [(ok_iff.1 computed).2]
    exact le_round_multiple hc hp
  · intro a b larger s t p r hs ht ha hab hp hpr computed
    have hab := Quantity.le_iff_toInt_le.1 hab
    have hpr := Int64.le_iff_toInt_le.1 hpr
    obtain ⟨-, value⟩ :=
      (ht.nextCapacity_eq_ok_iff (ha.trans hab) (hp.trans hpr)).1 computed
    have low := le_round_multiple ha hp
    have high := round_multiple_mono ha hab hp hpr
    have bound := larger.value.toInt_lt
    obtain ⟨v, smaller⟩ : ∃ v : Int64,
        v.toInt = round (a.value.toInt * (100 + p.toInt) / 100 : ℚ) :=
      exists_toInt_eq (fitsInt64_iff.2 (by omega))
    refine ⟨⟨v, a.form⟩, (hs.nextCapacity_eq_ok_iff ha hp).2 ⟨rfl, smaller⟩, ?_⟩
    rw [Quantity.le_iff_toInt_le, smaller, value]
    exact high

/-- By a fifth 100 bytes become 120, and 102 by a quarter become 128, as 127.5 is rounded up. -/
theorem nextCapacity_arithmetic_fifth :
    Share.Percentage "20%" 20 ∧ Share.Percentage "25%" 25 ∧
      nextCapacity ⟨100, .decimal⟩ "20%" = .ok ⟨120, .decimal⟩ ∧
      (⟨100, .decimal⟩ : Quantity) ≤ ⟨120, .decimal⟩ ∧
      nextCapacity ⟨102, .binary⟩ "25%" = .ok ⟨128, .binary⟩ ∧
      ∃ smaller, nextCapacity ⟨100, .decimal⟩ "20%" = .ok smaller ∧
        smaller ≤ ⟨128, .binary⟩ := by
  have fifth : Share.Percentage "20%" 20 :=
    ⟨['2', '0'], 20, by decide, Digits.readInt64?_eq_some_iff.1 (by decide), by decide +kernel⟩
  have quarter : Share.Percentage "25%" 25 :=
    ⟨['2', '5'], 25, by decide, Digits.readInt64?_eq_some_iff.1 (by decide), by decide +kernel⟩
  obtain ⟨-, single, mono⟩ := nextCapacity_arithmetic
  have multiple : round ((100 : Int) * (100 + (20 : Int)) / 100 : ℚ) = 120 := by
    rw [round_eq]
    norm_num
  have half : round ((102 : Int) * (100 + (25 : Int)) / 100 : ℚ) = 128 := by
    rw [round_eq]
    norm_num
  obtain ⟨ok_iff, more⟩ :=
    single ⟨100, .decimal⟩ ⟨120, .decimal⟩ "20%" 20 fifth (by decide) (by decide)
  have computed := ok_iff.2 ⟨rfl, multiple.symm⟩
  have larger := (single ⟨102, .binary⟩ ⟨128, .binary⟩ "25%" 25 quarter (by decide) (by decide)).1.2
    ⟨rfl, half.symm⟩
  exact ⟨fifth, quarter, computed, more computed, larger,
    mono ⟨100, .decimal⟩ ⟨102, .binary⟩ ⟨128, .binary⟩ "20%" "25%" 20 25 fifth quarter (by decide)
      (by decide) (by decide) (by decide) larger⟩

end

end FleetMend
