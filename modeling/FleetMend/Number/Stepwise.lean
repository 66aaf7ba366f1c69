import FleetMend.Number.Literal

/-!
Decimal numbers read in double arithmetic: the digits as far as a word of 64 bits holds them, then a
power of ten, each step rounded to the nearest double.  The result may miss the nearest double by
its last place, which `Binary64.ofDecimal` never does.

* `Binary64.ofSteps?`: the number read in this way; none past the greatest double.
* `Digits.fill`: the digits that a word holds.
-/

namespace FleetMend

namespace Digits

/-- Appends digits to a number as long as it stays in an unsigned word of 64 bits: the number, and
how many digits it has taken. -/
def fill (n : Nat) : List Char → Nat × Nat
  | [] => (n, 0)
  | c :: cs =>
    let longer := 10 * n + digit c
    if longer < Nat.pow 2 64 then
      let (filled, taken) := fill longer cs
      (filled, taken + 1)
    else (n, 0)

theorem fill_taken_le (n : Nat) (cs : List Char) : (fill n cs).2 ≤ cs.length := by
  induction cs generalizing n with
  | nil => simp [fill]
  | cons c cs ih =>
    simp only [fill, List.length_cons]
    split
    · exact Nat.succ_le_succ (ih _)
    · exact Nat.zero_le _

end Digits

namespace Binary64

/-- A power of ten as a double. -/
def roundedPow10 (k : Nat) : Rat := nearest (pow10 k)

/-- A double times a power of ten: by one multiplication or division as far as the power is a
double, and by divisions one after another below that.  None past the greatest double. -/
def scale? (size : Rat) (exponent : Int) : Option Rat :=
  if 308 < exponent then if size = 0 then some 0 else none
  else if 0 ≤ exponent then
    let product := nearest (size * roundedPow10 exponent.toNat)
    if overflow ≤ product then none else some product
  else if -308 ≤ exponent then some (nearest (size / roundedPow10 (-exponent).toNat))
  else if size = 0 then some 0
  else scale? (nearest (size / roundedPow10 308)) (exponent + 308)
termination_by (-exponent).toNat

/-- The number with the given digits before and after the point, times a power of ten.  A digit
that the word no longer holds counts before the point as a power of ten, and after it not at all. -/
def ofSteps? (negative : Bool) (whole frac : List Char) (exponent : Int) : Option Binary64 :=
  let (n, taken) := Digits.fill 0 whole
  let (n, places) := Digits.fill n frac
  let exponent := exponent + (whole.length - taken : Nat) - places
  (scale? (nearest n) exponent).map (finite negative)

end Binary64

end FleetMend
