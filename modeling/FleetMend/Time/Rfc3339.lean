import FleetMend.Text.Digits
import FleetMend.Time.Basic
import FleetMend.Time.Calendar

/-!
Points in time as RFC 3339 text.

* `Time.text`: in UTC, with a `Z` and the fewest of 0, 3, 6 and 9 fraction digits that lose nothing.
* `Time.read?`: any offset, a space for the `T`, and blanks around the parts.
-/

namespace FleetMend

/-! ### Writing -/

/-- The fraction of a second in the fewest of 0, 3, 6 and 9 digits that lose nothing. -/
def subsecondText (nanos : Nat) : List Char :=
  if nanos = 0 then []
  else if nanos % 1000000 = 0 then '.' :: Digits.padded 3 (nanos / 1000000)
  else if nanos % 1000 = 0 then '.' :: Digits.padded 6 (nanos / 1000)
  else '.' :: Digits.padded 9 nanos

/-- Four digits, and a sign outside of the years 0 to 9999. -/
def yearText (y : Int) : List Char :=
  if 0 ≤ y ∧ y ≤ 9999 then Digits.padded 4 y.toNat
  else (if y < 0 then '-' else '+') :: Digits.padded 4 y.natAbs

namespace Time

/-- The date in UTC. -/
def date (t : Time) : Date := .ofDays (t.ordinaryNanos / 86400000000000)

/-- The time in UTC; a leap second is the second 60 of its minute. -/
def text (t : Time) : String :=
  let date := t.date
  let rest := (t.ordinaryNanos % 86400000000000).toNat
  let secs := rest / 1000000000
  let second := secs % 60 + if t.inLeapSecond then 1 else 0
  String.ofList (yearText date.year ++ ['-'] ++ Digits.padded 2 date.month ++ ['-'] ++
    Digits.padded 2 date.day ++ ['T'] ++ Digits.padded 2 (secs / 3600) ++ [':'] ++
    Digits.padded 2 (secs / 60 % 60) ++ [':'] ++ Digits.padded 2 second ++
    subsecondText (rest % 1000000000) ++ ['Z'])

end Time

/-! ### Reading -/

namespace Rfc3339

/-- White space of every script. -/
def isBlank (c : Char) : Bool :=
  let n := c.toNat
  (9 ≤ n && n ≤ 13) || n = 0x20 || n = 0x85 || n = 0xa0 || n = 0x1680 || (0x2000 ≤ n && n ≤ 0x200a)
    || n = 0x2028 || n = 0x2029 || n = 0x202f || n = 0x205f || n = 0x3000

def skipBlanks (cs : List Char) : List Char := cs.dropWhile isBlank

/-- One to `width` digits, and what follows. -/
def number? (width : Nat) (cs : List Char) : Option (Nat × List Char) :=
  let ds := (cs.take width).takeWhile Char.isDigit
  if ds = [] then none else some (Digits.value ds, cs.drop ds.length)

/-- A number between two bounds after blanks, and what follows. -/
def part? (width low high : Nat) (cs : List Char) : Option (Nat × List Char) :=
  (number? width (skipBlanks cs)).filter fun r => low ≤ r.1 && r.1 ≤ high

/-- The text after blanks and a mark. -/
def mark? (c : Char) (cs : List Char) : Option (List Char) :=
  match skipBlanks cs with
  | d :: rest => if d = c then some rest else none
  | [] => none

/-- Up to four digits, or any number of them after a sign. -/
def year? (cs : List Char) : Option (Int × List Char) :=
  match skipBlanks cs with
  | '-' :: rest => (number? rest.length rest).map fun r => (-(r.1 : Int), r.2)
  | '+' :: rest => (number? rest.length rest).map fun r => (r.1, r.2)
  | rest => (number? 4 rest).map fun r => (r.1, r.2)

def date? (cs : List Char) : Option (Date × List Char) := do
  let (y, cs) ← year? cs
  let cs ← mark? '-' cs
  let (m, cs) ← part? 2 1 12 cs
  let cs ← mark? '-' cs
  let (d, cs) ← part? 2 1 31 cs
  let date : Date := ⟨y, m, d⟩
  if date.IsValid then some (date, cs) else none

/-- A point and digits, of which the first nine count; none where no point stands. -/
def nanos? : List Char → Option (Nat × List Char)
  | '.' :: cs =>
    let ds := cs.takeWhile Char.isDigit
    if ds = [] then none
    else
      let kept := ds.take 9
      some (Digits.value kept * Nat.pow 10 (9 - kept.length), cs.drop ds.length)
  | cs => some (0, cs)

/-- The nanoseconds from midnight.  The second 60 of any minute is a leap second. -/
def clock? (cs : List Char) : Option (Time × List Char) := do
  let (h, cs) ← part? 2 0 23 cs
  let cs ← mark? ':' cs
  let (m, cs) ← part? 2 0 59 cs
  let cs ← mark? ':' cs
  let (s, cs) ← part? 2 0 60 cs
  let (n, cs) ← nanos? cs
  some (⟨((h * 3600 + m * 60 + s) * 1000000000 + n : Nat), s = 60⟩, cs)

/-- Two digits up to a bound. -/
def pair? (high : Nat) : List Char → Option (Nat × List Char)
  | a :: b :: rest =>
    if a.isDigit && b.isDigit && Digits.value [a, b] ≤ high then some (Digits.value [a, b], rest)
    else none
  | _ => none

/-- Hours and minutes, with colons or blanks between them, less than a day in all. -/
def distance? (cs : List Char) : Option (Int × List Char) := do
  let (h, cs) ← pair? 23 cs
  let (m, cs) ← pair? 59 (cs.dropWhile fun c => c = ':' || isBlank c)
  some ((h * 60 + m : Nat), cs)

/-- The minutes by which a local time is ahead of UTC: `Z`, `UTC`, or a sign and hours and minutes.
-/
def offset? (cs : List Char) : Option (Int × List Char) :=
  match skipBlanks cs with
  | 'Z' :: rest | 'z' :: rest => some (0, rest)
  | '+' :: rest => distance? rest
  | '-' :: rest | '−' :: rest => (distance? rest).map fun r => (-r.1, r.2)
  | a :: b :: c :: rest =>
    if [a, b, c].map Char.toLower = ['u', 't', 'c'] then some (0, rest) else none
  | _ => none

end Rfc3339

open Rfc3339 in
/-- A date, a `T` or a blank, a time of day and an offset.  The date has to exist both where the
time was written and in UTC. -/
def Time.read? (s : String) : Option Time := do
  let (date, cs) ← date? s.toList
  let cs ← match cs with
    | 'T' :: rest | 't' :: rest | ' ' :: rest => some rest
    | _ => none
  let (clock, cs) ← clock? cs
  let (minutes, cs) ← offset? cs
  let midnight := date.toDays * 86400000000000 - minutes * 60000000000
  let time : Time := { clock with nanos := midnight + clock.nanos }
  if skipBlanks cs = [] ∧ time.date.IsValid then some time else none

end FleetMend
