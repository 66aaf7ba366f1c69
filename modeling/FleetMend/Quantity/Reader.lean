import FleetMend.Quantity.Basic
import FleetMend.Quantity.Error

/-!
Sizes from text: an optional sign, digits with at most one point, and a suffix.

* `Quantity.read`: the size, rounded up to whole bytes, or the first of the reasons why there is
  none.
* `Scale.ofSuffix?`: what a suffix multiplies by.
-/

namespace FleetMend

/-- What a suffix multiplies by: a power of two, or a power of ten by letter or by exponent. -/
inductive Scale
  | binary (shift : Nat)
  | decimal (power : Int)
  | exponent (power : Int)
deriving DecidableEq

namespace Scale

def form : Scale → Form
  | binary _ => .binary
  | decimal _ => .decimal
  | exponent _ => .exponent

def binarySuffixes : List (String × Nat) :=
  [("Ki", 10), ("Mi", 20), ("Gi", 30), ("Ti", 40), ("Pi", 50), ("Ei", 60)]

def decimalSuffixes : List (String × Int) :=
  [("n", -9), ("u", -6), ("m", -3), ("", 0), ("k", 3), ("M", 6), ("G", 9), ("T", 12), ("P", 15),
    ("E", 18)]

/-- A suffix of either list, or an `e` and a whole number; a bare `E` is a letter. -/
def ofSuffix? (suffix : List Char) : Option Scale :=
  let name := String.ofList suffix
  match binarySuffixes.lookup name, decimalSuffixes.lookup name with
  | some shift, _ => some (binary shift)
  | none, some power => some (decimal power)
  | none, none =>
    match suffix with
    | 'e' :: rest | 'E' :: rest => (Digits.readInt32? rest).map exponent
    | _ => none

end Scale

namespace Quantity

/-- A word of 128 bits holds the numbers of a size while it is read. -/
def fitsNat128 (n : Nat) : Bool := n < Nat.pow 2 128

/-- The digits with the point left out, and how many of them stand after it, trailing zeros of the
fraction not counted. -/
def mantissa? (number : List Char) : Option (Nat × Nat) :=
  let whole := number.takeWhile (· != '.')
  let frac := (number.dropWhile (· != '.')).drop 1
  if (whole = [] ∧ frac = []) ∨ '.' ∈ frac then none
  else
    let frac := (frac.reverse.dropWhile (· = '0')).reverse
    let n := Digits.value (whole ++ frac)
    if fitsNat128 n then some (n, frac.length) else none

/-- The powers of ten that fit a word of 128 bits. -/
def pow10? (n : Nat) : Option Nat := if n ≤ 38 then some (Nat.pow 10 n) else none

/-- A product that fits a word of 128 bits. -/
def mul128? (a b : Nat) : Option Nat := if fitsNat128 (a * b) then some (a * b) else none

/-- The size as a fraction, as far as its two parts are in range. -/
def ratio? (mantissa places : Nat) : Scale → Option (Nat × Nat)
  | .binary shift => do some (← mul128? mantissa (Nat.pow 2 shift), ← pow10? places)
  | .decimal power | .exponent power =>
    let net := power - places
    if 0 ≤ net then do some (← mul128? mantissa (← pow10? net.toNat), 1)
    else (pow10? (-net).toNat).map (mantissa, ·)

/-- The fraction to the next whole number above it, towards zero for a negative size. -/
def roundUp (negative : Bool) (n d : Nat) : Nat :=
  if n % d ≠ 0 ∧ ¬negative then n / d + 1 else n / d

/-- A number of bytes in range, with its sign. -/
def signed? (negative : Bool) (magnitude : Nat) : Option Int64 :=
  if magnitude < Nat.pow 2 63 then some (Int64.ofInt (if negative then -magnitude else magnitude))
  else none

/-- The size that a scaled number comes to, as far as it is in range. -/
def scaled? (negative : Bool) (mantissa places : Nat) (scale : Scale) : Option Int64 :=
  (ratio? mantissa places scale).bind fun r => signed? negative (roundUp negative r.1 r.2)

/-- The characters that a number is made of. -/
def isNumeric (c : Char) : Bool := c.isDigit || c = '.'

/-- The size that a text writes. -/
def read (input : String) : Except QuantityError Quantity :=
  if input.isEmpty then .error .empty
  else
    let cs := input.toList
    let negative : Bool := cs.head? = some '-'
    let rest := if cs.head? = some '-' ∨ cs.head? = some '+' then cs.drop 1 else cs
    let suffix := rest.dropWhile isNumeric
    match mantissa? (rest.takeWhile isNumeric) with
    | none => .error (.invalidNumber input)
    | some (mantissa, places) =>
      match Scale.ofSuffix? suffix with
      | none => .error (.unknownSuffix input (String.ofList suffix))
      | some scale =>
        match scaled? negative mantissa places scale with
        | none => .error (.outOfRange input)
        | some value => .ok ⟨value, scale.form⟩

def read? (input : String) : Option Quantity := (read input).toOption

end Quantity

end FleetMend
