import FleetMend.Number.Binary64
import FleetMend.Quantity.Basic
import FleetMend.Quantity.Error

/-!
A count that is given outright or as a share of a total, such as `2` or `"25%"`.

* `Share.resolve`: the count, a share rounded down or up.
* `Share.percentOf`: the share of a total in double precision, as it is computed.
-/

namespace FleetMend

/-- A count, or a text that should be a percentage. -/
inductive Share
  | count (n : Int64)
  | text (s : String)
deriving DecidableEq

namespace Share

/-- A percentage. -/
def percent (p : Int64) : Share := text (String.ofList (Digits.ofInt p.toInt) ++ "%")

/-- The whole number before the percent sign. -/
def readPercent (raw : String) : Except QuantityError Int64 :=
  match raw.toList.reverse with
  | '%' :: rest =>
    match Digits.readInt64? rest.reverse with
    | some p => .ok p
    | none => .error (.invalidPercentage raw)
  | _ => .error .notAPercentage

/-- `p` times `total` over 100, each of the two operands and of the two results taken to the nearest
double. -/
def percentOf (p total : Int64) : Rat :=
  Binary64.nearest
    (Binary64.nearest (Binary64.nearest p.toInt * Binary64.nearest total.toInt) / 100)

/-- A whole number, or the bound of the range that it lies beyond. -/
def saturate (n : Int) : Int64 := Int64.ofInt (max (-Nat.pow 2 63) (min n (Nat.pow 2 63 - 1)))

/-- The share of `total` to a whole number, rounded down or up. -/
def percentOfRounded (p total : Int64) (roundUp : Bool) : Int64 :=
  let scaled := percentOf p total
  saturate (if roundUp then scaled.ceil else scaled.floor)

/-- A count stands for itself; a percentage is taken of `total`. -/
def resolve (s : Share) (total : Int64) (roundUp : Bool) : Except QuantityError Int64 :=
  match s with
  | count n => .ok n
  | text raw => (readPercent raw).map fun p => percentOfRounded p total roundUp

/-- The share as it was written. -/
def display : Share → String
  | count n => String.ofList (Digits.ofInt n.toInt)
  | text raw => raw

end Share

end FleetMend
