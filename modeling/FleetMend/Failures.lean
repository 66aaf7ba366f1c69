/-!
Failures gathered side by side, so that none of them hides another.

* `Failures.text`: the messages, one a line.
* `Failures.toOption`: nothing where nothing failed.
-/

namespace FleetMend

/-- What failed, in the order in which it did. -/
structure Failures (ε : Type) where
  items : List ε := []
deriving DecidableEq, Inhabited

namespace Failures

variable {ε : Type}

def push (f : Failures ε) (e : ε) : Failures ε := ⟨f.items ++ [e]⟩

def extend (f g : Failures ε) : Failures ε := ⟨f.items ++ g.items⟩

def isEmpty (f : Failures ε) : Bool := f.items.isEmpty

def size (f : Failures ε) : Nat := f.items.length

/-- Nothing where nothing failed. -/
def toOption (f : Failures ε) : Option (Failures ε) := if f.isEmpty then none else some f

/-- Success where nothing failed. -/
def toExcept (f : Failures ε) : Except (Failures ε) Unit := if f.isEmpty then .ok () else .error f

/-- The messages, one a line. -/
def text (message : ε → String) (f : Failures ε) : String :=
  "\n".intercalate (f.items.map message)

end Failures

end FleetMend
