/-!
Whole numbers as text.

* `Digits.readInt?`: an optional sign and one or more ASCII digits.
* `Digits.readNat?`: the same without a minus.
* `fitsInt64_iff`, `fitsNat64_iff`: the ranges in which a 64-bit word holds a number.
-/

namespace FleetMend

/-- The number lies in the range of a signed word of 64 bits. -/
def fitsInt64 (n : Int) : Bool := -Nat.pow 2 63 ≤ n && n < Nat.pow 2 63

/-- The number lies in the range of a signed word of 32 bits. -/
def fitsInt32 (n : Int) : Bool := -Nat.pow 2 31 ≤ n && n < Nat.pow 2 31

/-- The number lies in the range of an unsigned word of 64 bits. -/
def fitsNat64 (n : Int) : Bool := 0 ≤ n && n < Nat.pow 2 64

/-- The number lies in the range of an unsigned word of 32 bits. -/
def fitsNat32 (n : Int) : Bool := 0 ≤ n && n < Nat.pow 2 32

theorem fitsInt64_iff {n : Int} :
    fitsInt64 n = true ↔ -9223372036854775808 ≤ n ∧ n ≤ 9223372036854775807 := by
  simp only [fitsInt64, Nat.pow_eq, Nat.reducePow, Bool.and_eq_true, decide_eq_true_eq]
  omega

theorem fitsNat64_iff {n : Int} : fitsNat64 n = true ↔ 0 ≤ n ∧ n ≤ 18446744073709551615 := by
  simp only [fitsNat64, Nat.pow_eq, Nat.reducePow, Bool.and_eq_true, decide_eq_true_eq]
  omega

namespace Digits

/-- The value of one decimal digit. -/
def digit (c : Char) : Nat := c.toNat - '0'.toNat

/-- The number that a row of decimal digits writes. -/
def value (cs : List Char) : Nat := cs.foldl (fun n c => 10 * n + digit c) 0

/-- The digits of a number, most significant first. -/
def ofNat (n : Nat) : List Char := Nat.toDigits 10 n

/-- The digits of a number, after a minus where it is negative. -/
def ofInt (n : Int) : List Char :=
  if n < 0 then '-' :: ofNat n.natAbs else ofNat n.natAbs

/-- One or more digits and nothing else. -/
def readDigits? (cs : List Char) : Option Nat :=
  if cs ≠ [] ∧ cs.all Char.isDigit then some (value cs) else none

/-- Digits after an optional plus. -/
def readNat? : List Char → Option Nat
  | '+' :: cs => readDigits? cs
  | cs => readDigits? cs

/-- Digits after an optional sign. -/
def readInt? : List Char → Option Int
  | '-' :: cs => (readDigits? cs).map fun n => -(n : Int)
  | cs => (readNat? cs).map fun n => (n : Int)

/-- A literal in the range of a signed word of 64 bits. -/
def readInt64? (cs : List Char) : Option Int64 :=
  (readInt? cs).bind fun n => if fitsInt64 n then some (Int64.ofInt n) else none

/-- A literal in the range of a signed word of 32 bits. -/
def readInt32? (cs : List Char) : Option Int :=
  (readInt? cs).filter fitsInt32

/-- A literal in the range of an unsigned word of 64 bits. -/
def readNat64? (cs : List Char) : Option Nat :=
  (readNat? cs).filter fun n => n < Nat.pow 2 64

/-- The number, over zeros on the left up to `width` places. -/
def padded (width n : Nat) : List Char :=
  let ds := ofNat n
  List.replicate (width - ds.length) '0' ++ ds

/-- The lower-case hexadecimal digits of a number. -/
def hex (n : Nat) : List Char := Nat.toDigits 16 n

end Digits

end FleetMend
