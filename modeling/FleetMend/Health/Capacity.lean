import FleetMend.Data.SortedMap
import FleetMend.Fleet.Spec
import FleetMend.Fleet.Status
import FleetMend.Health.Error
import FleetMend.Health.Snapshot
import FleetMend.Quantity.Reader

/-!
Which volumes are to grow, and to what size.

* `nextCapacity`: the size after one increase.
* `planResizes`: a request for every volume that needs one and does not have it yet, and what
  failed.
-/

namespace FleetMend

/-- `percent` hundredths of `value`, a half away from zero. -/
def hundredths (value percent : Int) : Int :=
  let product := value * percent
  product.sign * ((product.natAbs + 50) / 100 : Nat)

/-- The size after an increase by a percentage of itself, or else by a size; the two reasons where
the increase is neither. -/
def nextCapacity (current : Quantity) (increase : String) : Except HealthError Quantity :=
  let orOverflow (grown : Option Quantity) : Except HealthError Quantity :=
    match grown with
    | some q => .ok q
    | none => .error (.capacityOverflow increase)
  match (Share.text increase).resolve 100 false with
  | .ok percent =>
    orOverflow <| (int64OfInt? (hundredths current.value.toInt percent.toInt)).bind fun n =>
      current.grow? n.toInt
  | .error notPercentage =>
    match Quantity.read increase with
    | .ok size => orOverflow (current.checkedAdd size)
    | .error notSize => .error (.invalidIncrease increase ⟨[notPercentage, notSize]⟩)

/-- The requests of one evaluation, by volume, and the failures of the others. -/
structure ResizePlan where
  requests : SortedMap String ResizeRequest := ∅
  failures : Failures HealthError := {}

/-- What is to happen to one volume. -/
inductive Assessment
  /-- There is room, the volume is as large as it may get, or the request stands already. -/
  | leave
  | fail (e : HealthError)
  | request (size : Quantity)

/-- The size that a volume should grow to, if it may grow at all: the computed size, or the ceiling
where that is less. -/
def growTo? (capacity next : Quantity) (limit : Option Quantity) : Option Quantity :=
  match limit with
  | none => some next
  | some top => if top ≤ capacity then none else some (if top ≤ next then top else next)

/-- A volume at or over the trigger asks for its size, unless that very size has been asked for. -/
def assess (spec : AutoscaleSpec) (current : SortedMap String ResizeRequest) (sample : DiskUsage) :
    Assessment :=
  if sample.percentUsed < spec.trigger then .leave
  else match nextCapacity sample.capacity spec.increase with
    | .error e => .fail e
    | .ok next =>
      match growTo? sample.capacity next spec.limit? with
      | none => .leave
      | some size =>
        match current.find? sample.name with
        | some asked => if asked.size == size then .leave else .request size
        | none => .request size

/-- A request for every volume that needs one; of two samples for one volume the later counts. -/
def planResizes (samples : List DiskUsage) (spec : AutoscaleSpec)
    (current : SortedMap String ResizeRequest) (now : Time) : ResizePlan where
  requests := .ofList <| samples.filterMap fun s =>
    match assess spec current s with
    | .request size => some (s.name, ⟨size, now⟩)
    | _ => none
  failures := ⟨samples.filterMap fun s =>
    match assess spec current s with
    | .fail e => some e
    | _ => none⟩

end FleetMend
