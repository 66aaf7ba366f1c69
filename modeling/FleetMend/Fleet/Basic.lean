import FleetMend.Fleet.Key
import FleetMend.Fleet.Spec
import FleetMend.Fleet.Status

/-!
A fleet of full nodes.

* `Fleet`: what the operator asks for, what the controller knows, and the version of the two.
-/

namespace FleetMend

/-- A fleet as it is stored. -/
structure Fleet where
  key : FleetKey
  /-- A mark that changes with every write. -/
  version : Nat := 0
  spec : FleetSpec
  status : FleetStatus := {}
deriving BEq, Inhabited

end FleetMend
