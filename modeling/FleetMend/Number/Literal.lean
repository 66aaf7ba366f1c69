import FleetMend.Number.Binary64
import FleetMend.Text.Digits

/-!
Decimal literals to numbers in double precision.

* `Binary64.ofDecimal`: digits and a power of ten.
* `Binary64.readLiteral?`: a literal with an optional sign, point and exponent, or the name of a
  number that is not finite.
-/

namespace FleetMend.Binary64

/-- The number with the given digits, times a power of ten. -/
def ofDecimal (negative : Bool) (digits : List Char) (exponent : Int) : Binary64 :=
  let m := Digits.value digits
  -- Past these exponents the result is the same whatever the digits.
  let (n, d) := if m = 0 then (0, 1)
    else if exponent > 400 then (Nat.pow 10 400, 1)
    else if exponent < -400 - digits.length then (0, 1)
    else if 0 ≤ exponent then (m * Nat.pow 10 exponent.toNat, 1)
    else (m, Nat.pow 10 (-exponent).toNat)
  ofSize negative n d

/-- Splits off the digits in front. -/
def splitDigits (cs : List Char) : List Char × List Char :=
  (cs.takeWhile Char.isDigit, cs.dropWhile Char.isDigit)

/-- The exponent after an `e`; zero where none stands. -/
def exponent? : List Char → Option Int
  | [] => some 0
  | e :: cs => if e = 'e' ∨ e = 'E' then Digits.readInt? cs else none

/-- A literal without its sign. -/
def readUnsigned? (negative : Bool) (cs : List Char) : Option Binary64 :=
  match String.ofList (cs.map Char.toLower) with
  | "nan" => some nan
  | "inf" | "infinity" => some (infinite negative)
  | _ =>
    let (whole, rest) := splitDigits cs
    let (frac, rest) := match rest with
      | '.' :: rest => splitDigits rest
      | rest => ([], rest)
    if whole ++ frac = [] then none
    else (exponent? rest).map fun e => ofDecimal negative (whole ++ frac) (e - frac.length)

/-- A literal with an optional sign. -/
def readLiteral? : List Char → Option Binary64
  | '-' :: cs => readUnsigned? true cs
  | '+' :: cs => readUnsigned? false cs
  | cs => readUnsigned? false cs

end FleetMend.Binary64
