import FleetMend.Text.Digits

/-!
Paths to a place within settings: a name, and then names after points and places of arrays between
brackets, as in `pruning.steps[0]`.

* `Path.read`: the path that a text writes; a text that writes none is a name by itself.
-/

namespace FleetMend

/-- One step of a path. -/
inductive PathStep
  /-- The member of an object. -/
  | member (name : String)
  /-- The element of an array, counted from the first, or below zero from the end. -/
  | place (index : Int)
deriving DecidableEq

/-- The way to a place within a value. -/
abbrev Path := List PathStep

namespace Path

/-- A character of a name. -/
def isNameChar (c : Char) : Bool := c.isAlphanum || c = '_' || c = ' ' || c = '-'

def isBlank (c : Char) : Bool := c = ' ' || c = '\t'

/-- A name of at least one character. -/
def member? (name : List Char) : Option PathStep :=
  if name = [] then none else some (.member (String.ofList name))

/-- A whole number in the range of 64 bits, without a plus, and blanks around it. -/
def place? (text : List Char) : Option PathStep :=
  let trimmed := ((text.dropWhile isBlank).reverse.dropWhile isBlank).reverse
  if trimmed.head? = some '+' then none
  else (Digits.readInt64? trimmed).map fun n => .place n.toInt

/-- The step under way, with its characters so far, the last one first. -/
inductive Scan
  | name (read : List Char)
  | place (read : List Char)
  /-- After a closing bracket. -/
  | closed

/-- The steps that are left to read. -/
def stepsFrom? : Scan → List Char → Option Path
  | .name read, [] => do some [← member? read.reverse]
  | .place _, [] => none
  | .closed, [] => some []
  | .name read, '.' :: cs => do some ((← member? read.reverse) :: (← stepsFrom? (.name []) cs))
  | .name read, '[' :: cs => do some ((← member? read.reverse) :: (← stepsFrom? (.place []) cs))
  | .name read, c :: cs => if isNameChar c then stepsFrom? (.name (c :: read)) cs else none
  | .place read, ']' :: cs => do some ((← place? read.reverse) :: (← stepsFrom? .closed cs))
  | .place read, c :: cs => stepsFrom? (.place (c :: read)) cs
  | .closed, '.' :: cs => stepsFrom? (.name []) cs
  | .closed, '[' :: cs => stepsFrom? (.place []) cs
  | .closed, _ :: _ => none

/-- The path that a text writes; a text that writes none is a name by itself. -/
def read (text : String) : Path := (stepsFrom? (.name []) text.toList).getD [.member text]

example : read "a.b[0]" = [.member "a", .member "b", .place 0] := by decide +kernel
example : read "a[ -1 ].b" = [.member "a", .place (-1), .member "b"] := by decide +kernel
example : read "a..b" = [.member "a..b"] := by decide +kernel

end Path

end FleetMend
