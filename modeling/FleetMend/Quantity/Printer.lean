import FleetMend.Quantity.Basic

/-!
Sizes as text: in the largest unit of their notation that goes into them without rest.

* `Quantity.text`: the text.
* `Form.units`: the units of each notation, the largest first.
-/

namespace FleetMend

/-- The units of a notation beyond the single byte, the largest first. -/
def Form.units : Form → List (Int × String)
  | .binary =>
    [(Nat.pow 2 60, "Ei"), (Nat.pow 2 50, "Pi"), (Nat.pow 2 40, "Ti"), (Nat.pow 2 30, "Gi"),
      (Nat.pow 2 20, "Mi"), (Nat.pow 2 10, "Ki")]
  | .decimal =>
    [(Nat.pow 10 18, "E"), (Nat.pow 10 15, "P"), (Nat.pow 10 12, "T"), (Nat.pow 10 9, "G"),
      (Nat.pow 10 6, "M"), (Nat.pow 10 3, "k")]
  | .exponent =>
    [(Nat.pow 10 18, "e18"), (Nat.pow 10 15, "e15"), (Nat.pow 10 12, "e12"), (Nat.pow 10 9, "e9"),
      (Nat.pow 10 6, "e6"), (Nat.pow 10 3, "e3")]

namespace Quantity

/-- The largest unit that goes into the size without rest: the count and the suffix. -/
def inUnits (form : Form) (v : Int) : Int × String :=
  match form.units.find? fun u => v % u.1 = 0 with
  | some u => (v / u.1, u.2)
  | none => (v, "")

/-- Nothing is written `0` in every notation. -/
def text (q : Quantity) : String :=
  if q.isZero then "0"
  else
    let (count, suffix) := inUnits q.form q.value.toInt
    String.ofList (Digits.ofInt count) ++ suffix

end Quantity

end FleetMend
