/-!
The names under which fleets and pruning candidates are filed.

* `FleetKey`: a name within a namespace; keys are ordered by namespace first.
* `candidateKey`: the name of a pod's entry among the pruning candidates.
-/

namespace FleetMend

/-- The name of a fleet within its namespace. -/
structure FleetKey where
  space : String
  name : String
deriving DecidableEq, Inhabited

namespace FleetKey

instance : Ord FleetKey := ⟨compareLex (compareOn space) (compareOn name)⟩

theorem compare_def (a b : FleetKey) :
    compare a b = (compare a.space b.space).then (compare a.name b.name) := rfl

instance : Std.TransOrd FleetKey :=
  inferInstanceAs (Std.TransCmp (compareLex (compareOn space) (compareOn name)))

instance : Std.LawfulEqOrd FleetKey where
  eq_of_compare {a b} h := by
    obtain ⟨hs, hn⟩ := Ordering.then_eq_eq.1 ((compare_def a b).symm.trans h)
    obtain ⟨s, n⟩ := a
    obtain ⟨s', n'⟩ := b
    simp only [Std.LawfulEqCmp.compare_eq_iff_eq] at hs hn
    rw [hs, hn]

def text (k : FleetKey) : String := k.space ++ "/" ++ k.name

end FleetKey

/-- The namespace and the pod, with a point between them and without slashes, since the name stands
in a path. -/
def candidateKey (pod space : String) : String :=
  String.ofList ((space ++ "." ++ pod).toList.filter (· != '/'))

end FleetMend
