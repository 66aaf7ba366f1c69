/-!
Numbers in double precision: the rationals that have a significand of 53 bits and an exponent from
−1074 up.

* `Binary64.nearest`: the double nearest to a rational, the even one of two equally near.
* `Binary64.digits`: the fewest decimal digits that are nearest to no other double.
-/

namespace FleetMend

/-- A number in double precision; the size of a finite one carries its sign apart, since zero has
two. -/
inductive Binary64
  | nan
  | infinite (negative : Bool)
  | finite (negative : Bool) (size : Rat)
deriving DecidableEq

namespace Binary64

def zero : Binary64 := finite false 0

/-- The exponent of the last place of the doubles around `n / d`. -/
def lastPlace (n d : Nat) : Int :=
  let k := (n.log2 : Int) - (d.log2 : Int)
  let k := if 0 ≤ k then (if n < d * Nat.pow 2 k.toNat then k - 1 else k)
    else if n * Nat.pow 2 (-k).toNat < d then k - 1 else k
  max (k - 52) (-1074)

/-- The quotient to the nearest whole number, a half to the even neighbour. -/
def divEven (n d : Nat) : Nat :=
  let q := n / d
  let r := n % d
  if 2 * r < d then q
  else if 2 * r = d then q + q % 2
  else q + 1

/-- The size of the double nearest to `n / d`. -/
def nearestSize (n d : Nat) : Rat :=
  if n = 0 then 0
  else
    let e := lastPlace n d
    if 0 ≤ e then divEven n (d * Nat.pow 2 e.toNat) * Nat.pow 2 e.toNat
    else mkRat (divEven (n * Nat.pow 2 (-e).toNat) d) (Nat.pow 2 (-e).toNat)

/-- The double nearest to a rational, the even one of two equally near. -/
def nearest (q : Rat) : Rat :=
  if q < 0 then -nearestSize q.num.natAbs q.den else nearestSize q.num.natAbs q.den

/-- What lies past the greatest double. -/
def overflow : Rat := Nat.pow 2 1024

/-- The double nearest to a size with a sign. -/
def ofSize (negative : Bool) (n d : Nat) : Binary64 :=
  let size := nearestSize n d
  if overflow ≤ size then .infinite negative else .finite negative size

/-! ### Shortest digits -/

/-- `10 ^ k` as a rational. -/
def pow10 (k : Int) : Rat :=
  if 0 ≤ k then Nat.pow 10 k.toNat else mkRat 1 (Nat.pow 10 (-k).toNat)

/-- The exponent of the leading decimal digit of a positive rational. -/
def leading (q : Rat) : Int :=
  let k := ((Nat.toDigits 10 q.num.natAbs).length : Int) - (Nat.toDigits 10 q.den).length
  if q < pow10 k then k - 1 else k

/-- The nearer of the two neighbours of `q` on the grid of step `10 ^ k` that reads back as `q`. -/
def onGrid? (q : Rat) (k : Int) : Option Nat :=
  let below := (q / pow10 k).floor.toNat
  let hits : List Nat := [below, below + 1].filter fun m : Nat => nearest (m * pow10 k) = q
  match hits with
  | [a, b] =>
    let down := q - a * pow10 k
    let up := b * pow10 k - q
    if down < up then some a else if up < down then some b
    else some (if a % 2 = 0 then a else b)
  | hits => hits.head?

/-- The fewest digits `m` with a place `k` such that no double but `q` is nearest to `m · 10 ^ k`,
for a positive double `q`. -/
def digits (q : Rat) : Nat × Int :=
  let places := (List.range 17).map fun n : Nat => leading q - (n : Int)
  match places.findSome? fun k => (onGrid? q k).map (·, k) with
  | some (m, k) => if m = 10 then (1, k + 1) else (m, k)
  | none => (0, 0)

/-! ### Text -/

/-- A number between 10⁻⁵ and 10¹⁶ has its point in place, after at least one digit and before at
least one; every other has one digit before the point and an exponent. -/
def layout (m : Nat) (k : Int) : List Char :=
  let ds := Nat.toDigits 10 m
  let point : Int := ds.length + k
  if 0 ≤ k ∧ point ≤ 16 then ds ++ List.replicate k.toNat '0' ++ ['.', '0']
  else if 0 < point ∧ point ≤ 16 then ds.take point.toNat ++ ['.'] ++ ds.drop point.toNat
  else if -5 < point ∧ point ≤ 0 then ['0', '.'] ++ List.replicate (-point).toNat '0' ++ ds
  else
    let e := point - 1
    ds.take 1 ++ (if ds.length = 1 then [] else '.' :: ds.drop 1) ++
      ['e'] ++ (if e < 0 then ['-'] else []) ++ Nat.toDigits 10 e.natAbs

/-- A finite number by its fewest digits; the others have no text. -/
def text? : Binary64 → Option (List Char)
  | .finite negative size =>
    let sign := if negative then ['-'] else []
    if size = 0 then some (sign ++ ['0', '.', '0'])
    else
      let (m, k) := digits size
      some (sign ++ layout m k)
  | _ => none

end Binary64

end FleetMend
