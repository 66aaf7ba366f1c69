import FleetMend.Json.Token

/-!
JSON text to values.

* `Json.read?`: the value that a text writes, and nothing else around it but blanks.
* `Json.Reading.step?`: one token further, on the stack of the arrays and objects still open.
-/

namespace FleetMend.Json

/-- An array or object still open, with its parts so far, the last one first. -/
inductive Frame
  | arr (items : List Json)
  | obj (fields : List (String × Json))
  /-- An object in which the value of `key` is under way. -/
  | member (fields : List (String × Json)) (key : String)

/-- What may come next. -/
inductive Expect
  /-- A value; or the end of the array just opened. -/
  | value (mayClose : Bool)
  /-- A key; or the end of the object just opened. -/
  | key (mayClose : Bool)
  | colon
  /-- A comma or the end of what is open. -/
  | separator
  /-- Nothing: the value is complete. -/
  | nothing (j : Json)

/-- A reading under way. -/
structure Reading where
  stack : List Frame
  expect : Expect

/-- Arrays and objects nest this deep. -/
def maxDepth : Nat := 127

/-- Of several members with one key the last stays, in its own place. -/
def keepLast : List (String × Json) → List (String × Json)
  | [] => []
  | f :: rest => if rest.any (·.1 = f.1) then keepLast rest else f :: keepLast rest

namespace Reading

/-- A complete value goes into what is open. -/
def put (j : Json) : List Frame → Option Reading
  | [] => some ⟨[], .nothing j⟩
  | .arr items :: rest => some ⟨.arr (j :: items) :: rest, .separator⟩
  | .member fields key :: rest => some ⟨.obj ((key, j) :: fields) :: rest, .separator⟩
  | .obj _ :: _ => none

def openFrame (r : Reading) (f : Frame) (e : Expect) : Option Reading :=
  if r.stack.length < maxDepth then some ⟨f :: r.stack, e⟩ else none

/-- One token further. -/
def step? (r : Reading) (t : Token) : Option Reading :=
  match r.expect, t, r.stack with
  | .value _, .scalar j, stack => put j stack
  | .value _, .openArr, _ => r.openFrame (.arr []) (.value true)
  | .value _, .openObj, _ => r.openFrame (.obj []) (.key true)
  | .value true, .closeArr, .arr _ :: rest => put (.arr []) rest
  | .key _, .scalar (str k), .obj fields :: rest => some ⟨.member fields k :: rest, .colon⟩
  | .key true, .closeObj, .obj _ :: rest => put (.obj []) rest
  | .colon, .colon, stack => some ⟨stack, .value false⟩
  | .separator, .comma, .arr items :: rest => some ⟨.arr items :: rest, .value false⟩
  | .separator, .comma, .obj fields :: rest => some ⟨.obj fields :: rest, .key false⟩
  | .separator, .closeArr, .arr items :: rest => put (.arr items.reverse) rest
  | .separator, .closeObj, .obj fields :: rest => put (.obj (keepLast fields.reverse)) rest
  | _, _, _ => none

end Reading

/-- The value that a text writes. -/
def read? (s : String) : Option Json := do
  let r ← (← tokens? s).foldlM Reading.step? ⟨[], .value false⟩
  match r.expect with
  | .nothing j => some j
  | _ => none

end FleetMend.Json
