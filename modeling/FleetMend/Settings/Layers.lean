import FleetMend.Json.Reader
import FleetMend.Number.Literal
import FleetMend.Settings.Codec
import FleetMend.Settings.Path

/-!
Settings in layers: the defaults, a file over them, and the environment over both.

* `Layer.overlay`: one value over another; two objects are merged member by member, and the case of
  their names does not count.
* `Settings.load`: the settings of the three layers, read leniently: a text may stand for a number.
-/

namespace FleetMend

namespace Layer

/-- Lower case as far as it is ASCII; the Kelvin sign has it too. -/
def lower (c : Char) : Char := if c = '\u212a' then 'k' else c.toLower

/-- The text in lower case, in as much of it as a name of a setting can hold. -/
def lowered (s : String) : String := String.ofList (s.toList.map lower)

/-- Changes a member of an object, in whatever case its name is written; anything that is no object
makes way for one. -/
def setField (j : Json) (name : String) (f : Option Json → Json) : Json :=
  let name := lowered name
  match j with
  | .obj fields =>
    if fields.any (·.1 = name) then
      .obj (fields.map fun e => if e.1 = name then (name, f (some e.2)) else e)
    else .obj (fields ++ [(name, f none)])
  | _ => .obj [(name, f none)]

mutual

/-- A value over what stands in its place.  Only an object leaves standing what it does not name. -/
def overlay (base : Option Json) : Json → Json
  | .obj fields => overlayFields (base.getD (.obj [])) fields
  | j => j

def overlayFields (base : Json) : List (String × Json) → Json
  | [] => base
  | (name, j) :: rest => overlayFields (setField base name fun old => overlay old j) rest

end

/-! ### Paths -/

/-- Changes an element of an array; anything that is no array makes way for an empty one, and an
array that does not reach as far is filled up with nulls. -/
def setPlace (j : Json) (index : Int) (f : Json → Json) : Json :=
  let items := match j with
    | .arr items => items
    | _ => []
  let before := (-index - items.length).toNat
  let i := (if index < 0 then index + items.length else index).toNat
  let after := i + 1 - (before + items.length)
  let nulls (n : Nat) : List Json := List.replicate n .null
  .arr ((nulls before ++ items ++ nulls after).modify i f)

/-- Lays a value over what stands at the end of a path; an element of an array makes way for it. -/
def setAt (j : Json) : Path → Json → Json
  | [], value => overlay (some j) value
  | [.member name], value => setField j name fun old => overlay old value
  | [.place i], value => setPlace j i fun _ => value
  | .member name :: rest, value => setField j name fun old => setAt (old.getD .null) rest value
  | .place i :: rest, value => setPlace j i fun old => setAt old rest value

/-- Lays the members over a value, each at its path. -/
def apply (j : Json) (members : List (String × Json)) : Json :=
  members.foldl (fun j m => setAt j (Path.read m.1) m.2) j

/-! ### Sources -/

/-- A whole number past the range of 64 bits with a sign is only known in double precision. -/
def narrow : Json → Json
  | .int n => if fitsInt64 n then .int n else .real (.ofSize (n < 0) n.natAbs 1)
  | j => j

/-- The members of a file: the text has to be an object. -/
def ofFile? (text : String) : Option (List (String × Json)) :=
  match Json.read? text with
  | some (.obj fields) => some fields
  | _ => none

/-- A value of the environment: a truth value, a whole number, a number, or else a text. -/
def ofText (s : String) : Json :=
  match lowered s with
  | "true" => .bool true
  | "false" => .bool false
  | _ =>
    match Digits.readInt64? s.toList with
    | some n => .int n.toInt
    | none => ((Binary64.readLiteral? s.toList).map Json.real).getD (.str s)

/-- What the variables of the controller begin with. -/
def variablePrefix : String := "nodeheal_"

/-- Two underscores stand for a point. -/
def unfoldPath : List Char → List Char
  | '_' :: '_' :: rest => '.' :: unfoldPath rest
  | c :: rest => c :: unfoldPath rest
  | [] => []

/-- The path that a variable sets. -/
def variablePath? (name : String) : Option String :=
  let cs := (lowered name).toList
  let mark := variablePrefix.toList
  if mark.isPrefixOf cs then some (String.ofList (unfoldPath (cs.drop mark.length))) else none

/-- The members that the variables set. -/
def ofEnvironment (environment : List (String × String)) : List (String × Json) :=
  environment.filterMap fun v => (variablePath? v.1).map fun name => (name, ofText v.2)

end Layer

namespace Settings

/-! ### Lenient reading -/

/-- The words that stand for a truth value. -/
def truthWord? (s : String) : Option Bool :=
  match Layer.lowered s with
  | "true" | "on" | "yes" => some true
  | "false" | "off" | "no" => some false
  | _ => none

/-- A number rounded to the nearest whole one, a half upwards, within the range of 64 bits. -/
def roundNat64 : Binary64 → Nat
  | .finite false size => min (size + 1 / 2).floor.toNat (Nat.pow 2 64 - 1)
  | .infinite false => Nat.pow 2 64 - 1
  | _ => 0

/-- A whole number, which may be given by a truth value, a number with a fraction, or a text. -/
def lenientNat? : Json → Option Nat
  | .int n => if fitsNat64 n then some n.toNat else none
  | .bool b => some b.toNat
  | .real x => some (roundNat64 x)
  | .str s =>
    match truthWord? s with
    | some b => some b.toNat
    | none => Digits.readNat64? s.toList
  | _ => none

def lenientUInt32? (j : Json) : Option UInt32 :=
  (lenientNat? j).bind fun n => if n < Nat.pow 2 32 then some (UInt32.ofNat n) else none

/-- A number in double precision, which may be given by a truth value or a text. -/
def lenientBinary64? : Json → Option Binary64
  | .int n => some (.ofSize (n < 0) n.natAbs 1)
  | .real x => some x
  | .bool b => some (.ofSize false b.toNat 1)
  | .str s =>
    match truthWord? s with
    | some b => some (.ofSize false b.toNat 1)
    | none => Binary64.readLiteral? s.toList
  | _ => none

/-- The members of a record; an array gives them by position and may go on after them. -/
def lenientMembers? (names : List String) : Json → Option Json.Members
  | .obj fields => some ⟨true, fun name => (fields.lookup name).map Layer.narrow⟩
  | .arr items => some ⟨false, fun name => ((names.zip items).lookup name).map Layer.narrow⟩
  | _ => none

def lenientReading : Reading where
  members? := lenientMembers?
  nat64? := lenientNat?
  uint32? := lenientUInt32?
  binary64? := lenientBinary64?

/-! ### Loading -/

/-- The settings of the defaults, the file if there is one, and the environment. -/
def load (file : Option String) (environment : List (String × String)) : Option Settings := do
  let fields ← match file with
    | none => some []
    | some text => Layer.ofFile? text
  let layered := Layer.apply (Layer.apply (toJson {}) fields) (Layer.ofEnvironment environment)
  readBy lenientReading layered

end Settings

end FleetMend
