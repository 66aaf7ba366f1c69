import FleetMend.Data.SortedMap
import FleetMend.Number.Binary64
import FleetMend.Text.Digits

/-!
JSON values, and how a record, a choice or a map is taken out of one.

* `Json`: the values; a whole number is kept apart from every other number.
* `Json.members?`: a record, whose members come by name in an object or by position in an array.
* `Json.choice?`: one of several alternatives, by its name alone or by an object with that one
  member.
-/

namespace FleetMend

/-- A JSON value.  A number written without a fraction or an exponent is `int` as far as a word of
64 bits, signed or unsigned, holds it; every other number is `real`. -/
inductive Json
  | null
  | bool (b : Bool)
  | int (n : Int)
  | real (x : Binary64)
  | str (s : String)
  | arr (items : List Json)
  | obj (fields : List (String × Json))

namespace Json

instance : Inhabited Json := ⟨null⟩

/-! ### Scalars -/

def isNull : Json → Bool
  | null => true
  | _ => false

def bool? : Json → Option Bool
  | bool b => some b
  | _ => none

def str? : Json → Option String
  | str s => some s
  | _ => none

def int? : Json → Option Int
  | int n => some n
  | _ => none

def int64? (j : Json) : Option Int64 :=
  (j.int?.filter fitsInt64).map Int64.ofInt

def int32? (j : Json) : Option Int32 :=
  (j.int?.filter fitsInt32).map Int32.ofInt

def nat64? (j : Json) : Option Nat := (j.int?.filter fitsNat64).map Int.toNat

def uint64? (j : Json) : Option UInt64 := j.nat64?.map UInt64.ofNat

def uint32? (j : Json) : Option UInt32 :=
  (j.int?.filter fitsNat32).map fun n => UInt32.ofNat n.toNat

/-- A number in double precision, which may be written as a whole number. -/
def binary64? : Json → Option Binary64
  | int n => some (.ofSize (n < 0) n.natAbs 1)
  | real x => some x
  | _ => none

/-! ### Composites -/

/-- The member of an object. -/
def field? : Json → String → Option Json
  | obj fields, name => fields.lookup name
  | _, _ => none

def list? {α : Type} (item? : Json → Option α) : Json → Option (List α)
  | arr items => items.mapM item?
  | _ => none

def map? {α : Type} (value? : Json → Option α) : Json → Option (SortedMap String α)
  | obj fields => (fields.mapM fun f => (value? f.2).map (f.1, ·)).map .ofList
  | _ => none

/-- A null stands for nothing. -/
def option? {α : Type} (value? : Json → Option α) : Json → Option (Option α)
  | null => some none
  | j => (value? j).map some

/-- An alternative by its name alone, or by an object whose one member bears the name. -/
def choice? : Json → Option (String × Option Json)
  | str s => some (s, none)
  | obj [(s, j)] => some (s, some j)
  | _ => none

/-- An alternative that carries nothing: nothing or a null comes with its name. -/
def plainChoice? (j : Json) : Option String :=
  match j.choice? with
  | some (s, none) | some (s, some null) => some s
  | _ => none

/-! ### Records -/

/-- The members of a record as they came: by name, or by position. -/
structure Members where
  byName : Bool
  find? : String → Option Json

/-- The members with the given names.  An array gives them in this order and may break off early. -/
def members? (names : List String) : Json → Option Members
  | obj fields => some ⟨true, fun name => fields.lookup name⟩
  | arr items =>
    if items.length ≤ names.length then some ⟨false, fun name => (names.zip items).lookup name⟩
    else none
  | _ => none

namespace Members

variable {α : Type}

/-- A member that has to be there. -/
def required (m : Members) (name : String) (value? : Json → Option α) : Option α :=
  (m.find? name).bind value?

/-- A member that may be missing, but has to be well formed where it is there. -/
def defaulted (m : Members) (name : String) (value? : Json → Option α) (default : α) : Option α :=
  match m.find? name with
  | some j => value? j
  | none => some default

/-- A member that may be missing from an object, though not from an array, or be null. -/
def optional (m : Members) (name : String) (value? : Json → Option α) : Option (Option α) :=
  match m.find? name with
  | some j => j.option? value?
  | none => if m.byName then some none else none

end Members

/-! ### Building -/

def ofNat (n : Nat) : Json := int n

def ofOption {α : Type} (toJson : α → Json) : Option α → Json
  | none => null
  | some a => toJson a

def ofList {α : Type} (toJson : α → Json) (l : List α) : Json := arr (l.map toJson)

def ofMap {α : Type} (toJson : α → Json) (m : SortedMap String α) : Json :=
  obj (m.entries.map fun e => (e.1, toJson e.2))

/-- A number in double precision; null where it is not finite. -/
def ofBinary64 : Binary64 → Json
  | .finite negative size => real (.finite negative size)
  | _ => null

end Json

end FleetMend
