import FleetMend.Cycle.Contribution
import FleetMend.Health.Capacity

/-!
Growing volumes as a part of a cycle.

* `autoscale`: a request for every volume that needs one.
-/

namespace FleetMend

namespace ResizePlan

def patch (p : ResizePlan) : Patch := p.requests.entries.map fun e => .requestResize e.1 e.2

def actions (p : ResizePlan) : List Event :=
  if p.requests.isEmpty then [] else [.resizeRequested p.requests.keys]

def events (p : ResizePlan) : List Event :=
  match p.failures.toOption with
  | none => []
  | some failures => [.resizeSignalFailed (failures.text HealthError.message)]

def contribution (p : ResizePlan) : Contribution where
  patch := p.patch
  failures := p.failures.items.map .health
  actions := p.actions

end ResizePlan

/-- The disk usage, or the failure of a cycle. -/
def readUsage (f : Fleet) : Errand (Except ControlError (List DiskUsage)) :=
  Except.mapError .health <$> Errand.call (.collectUsage f)

/-- A request for every volume that needs one; what fails is told at once. -/
def autoscale (io : Nat) (f : Fleet) (spec : AutoscaleSpec) (c : CycleContext) (now : Time) :
    Cycle Contribution := do
  match ← c.run "collect disk usage" io (readUsage f) with
  | .error e =>
    Cycle.announce f.key .usageCollectionFailed
    pure (.failed e)
  | .ok samples =>
    let plan := planResizes samples spec f.status.healing.resizes now
    Cycle.announceAll f.key plan.events
    pure plan.contribution

end FleetMend
