import FleetMend.Text.Digits
import FleetMend.Time.Basic

/-!
A length of time in a message: the largest of s, ms, µs and ns that goes into it at least once, with
the exact fraction.

* `Span.text`: the text.
-/

namespace FleetMend

/-- The rest of a division by `10 ^ places`, as a fraction without trailing zeros. -/
def fractionText (places rest : Nat) : List Char :=
  let ds := ((Digits.padded places rest).reverse.dropWhile (· = '0')).reverse
  if ds = [] then [] else '.' :: ds

namespace Span

/-- The span counted in units of `10 ^ places` nanoseconds. -/
def inUnit (places : Nat) (name : String) (s : Span) : String :=
  let unit := Nat.pow 10 places
  String.ofList (Digits.ofNat (s.nanos / unit) ++ fractionText places (s.nanos % unit)) ++ name

/-- The span in the largest unit, up to the second, that goes into it. -/
def text (s : Span) : String :=
  if Nat.pow 10 9 ≤ s.nanos then s.inUnit 9 "s"
  else if Nat.pow 10 6 ≤ s.nanos then s.inUnit 6 "ms"
  else if Nat.pow 10 3 ≤ s.nanos then s.inUnit 3 "µs"
  else s.inUnit 0 "ns"

end Span

end FleetMend
