import FleetMend.Json.Value
import FleetMend.Number.Stepwise

/-!
The tokens of JSON text.

* `Json.tokens?`: one pass over the characters, with what has been read of the token under way.
* `Json.number?`: the grammar of numbers.
-/

namespace FleetMend.Json

/-- A bracket, a separator, or a value without parts. -/
inductive Token
  | openArr | closeArr | openObj | closeObj | comma | colon
  | scalar (j : Json)

/-! ### Words -/

/-- The digits after a point; none where no point stands, but at least one where it does. -/
def fraction? : List Char → Option (List Char × List Char)
  | '.' :: cs =>
    let (ds, rest) := Binary64.splitDigits cs
    if ds = [] then none else some (ds, rest)
  | cs => some ([], cs)

/-- A whole number without a sign: no zero stands in front of other digits. -/
def isWhole (ds : List Char) : Bool := ds = ['0'] || (ds != [] && ds.head? != some '0')

/-- A number: whole as long as it has neither fraction nor exponent, fits a word of 64 bits and is
no negative zero; a real otherwise, read step by step. -/
def number? (cs : List Char) : Option Json := do
  let negative := cs.head? = some '-'
  let (whole, rest) := Binary64.splitDigits (if negative then cs.drop 1 else cs)
  if !isWhole whole then none
  let n : Int := if negative then -(Digits.value whole : Int) else Digits.value whole
  if rest = [] ∧ (fitsInt64 n ∨ fitsNat64 n) ∧ ¬(negative ∧ n = 0) then some (int n)
  else
    let (frac, rest) ← fraction? rest
    (Binary64.ofSteps? negative whole frac (← Binary64.exponent? rest)).map real

/-- A word outside of quotes. -/
def word? (cs : List Char) : Option Json :=
  match String.ofList cs with
  | "null" => some null
  | "true" => some (bool true)
  | "false" => some (bool false)
  | _ => number? cs

/-! ### Scanning -/

/-- The token under way, with its characters so far, the last one first. -/
inductive Scan
  | between
  | word (read : List Char)
  | text (read : List Char)
  | escape (read : List Char)
  /-- The digits of a numbered character; `high` is the first half of a pair read before it. -/
  | hex (read : List Char) (high : Option Nat) (digits : List Char)
  /-- After a first half: a backslash and a `u` have to follow. -/
  | low (read : List Char) (high : Nat) (slash : Bool)

def hexDigit? (c : Char) : Option Nat :=
  if c.isDigit then some (c.toNat - '0'.toNat)
  else if 'a' ≤ c ∧ c ≤ 'f' then some (c.toNat - 'a'.toNat + 10)
  else if 'A' ≤ c ∧ c ≤ 'F' then some (c.toNat - 'A'.toNat + 10)
  else none

/-- The character that a short escape stands for. -/
def shortEscape? : Char → Option Char
  | '"' => some '"'
  | '\\' => some '\\'
  | '/' => some '/'
  | 'b' => some '\x08'
  | 'f' => some '\x0c'
  | 'n' => some '\n'
  | 'r' => some '\r'
  | 't' => some '\t'
  | _ => none

/-- Four hexadecimal digits: a character, or the first or second half of a pair. -/
def numbered? (read : List Char) (high : Option Nat) (digits : List Char) : Option Scan := do
  let n := (← digits.mapM hexDigit?).foldl (fun n d => 16 * n + d) 0
  match high with
  | some h =>
    if 0xdc00 ≤ n ∧ n ≤ 0xdfff then
      some (.text (Char.ofNat (0x10000 + (h - 0xd800) * 0x400 + (n - 0xdc00)) :: read))
    else none
  | none =>
    if 0xd800 ≤ n ∧ n ≤ 0xdbff then some (.low read n false)
    else if 0xdc00 ≤ n ∧ n ≤ 0xdfff then none
    else some (.text (Char.ofNat n :: read))

def isSpace (c : Char) : Bool := c = ' ' || c = '\t' || c = '\n' || c = '\r'

def mark? : Char → Option Token
  | '[' => some .openArr
  | ']' => some .closeArr
  | '\x7b' => some .openObj
  | '\x7d' => some .closeObj
  | ',' => some .comma
  | ':' => some .colon
  | _ => none

/-- One character between tokens: the token it is, or the scan it begins. -/
def start (c : Char) : List Token × Scan :=
  match mark? c with
  | some t => ([t], .between)
  | none =>
    if isSpace c then ([], .between)
    else if c = '"' then ([], .text [])
    else ([], .word [c])

/-- One character further: the tokens it completes, and the scan after it. -/
def advance? (s : Scan) (c : Char) : Option (List Token × Scan) :=
  match s with
  | .between => some (start c)
  | .word read =>
    if isSpace c ∨ (mark? c).isSome ∨ c = '"' then do
      let (ts, s) := start c
      some (.scalar (← word? read.reverse) :: ts, s)
    else some ([], .word (c :: read))
  | .text read =>
    if c = '"' then some ([.scalar (str (String.ofList read.reverse))], .between)
    else if c = '\\' then some ([], .escape read)
    else if c.toNat < 0x20 then none
    else some ([], .text (c :: read))
  | .escape read =>
    if c = 'u' then some ([], .hex read none [])
    else (shortEscape? c).map fun d => ([], .text (d :: read))
  | .hex read high digits =>
    if digits.length < 3 then some ([], .hex read high (digits ++ [c]))
    else (numbered? read high (digits ++ [c])).map ([], ·)
  | .low read high slash =>
    if slash then if c = 'u' then some ([], .hex read (some high) []) else none
    else if c = '\\' then some ([], .low read high true) else none

/-- The tokens of a text; a text in quotes has to be closed. -/
def tokensFrom? : Scan → List Char → Option (List Token)
  | .between, [] => some []
  | .word read, [] => (word? read.reverse).map fun j => [.scalar j]
  | _, [] => none
  | s, c :: cs => do
    let (ts, s) ← advance? s c
    some (ts ++ (← tokensFrom? s cs))

def tokens? (s : String) : Option (List Token) := tokensFrom? .between s.toList

end FleetMend.Json
