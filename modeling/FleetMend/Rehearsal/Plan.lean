import FleetMend.Cycle.Query
import FleetMend.Rehearsal.World

/-!
How a request ends on the virtual clock.

* `World.plan`: the earliest of its completion, its own bound and the limit of the wait; of two that
  fall together the one named first.
* `World.settle`: the answer to a request that ends by itself.
-/

namespace FleetMend

/-- How a wait ends. -/
inductive Ending
  | completed
  /-- By the bound of the request itself. -/
  | givenUp
  | limit
  | shutdown
deriving DecidableEq

/-- When and how a wait will end. -/
structure Plan where
  instant : Nat
  ending : Ending
deriving DecidableEq

namespace Plan

/-- The earlier of a plan and another ending, of two at once the plan. -/
def orElse (p : Plan) (instant : Option Nat) (ending : Ending) : Plan :=
  match instant with
  | none => p
  | some t => if t < p.instant then ⟨t, ending⟩ else p

end Plan

/-- The call behind a request. -/
def Request.call? : Request → Option Call
  | call c | callWithin c _ => some c
  | pause .. => none

namespace World

variable (w : World)

/-- The milliseconds that a request takes; a pause takes no random part. -/
def duration : Request → Nat
  | .call c | .callWithin c _ => w.delay c
  | .pause millis _ => millis

/-- How a request ends that is made now.  One that takes no time is completed at once, even past its
bounds. -/
def plan (now : Nat) (r : Request) (limit stop : Option Nat) : Plan :=
  let own := match r with
    | .callWithin _ millis => some (now + millis)
    | _ => none
  ((Plan.orElse ⟨now + w.duration r, .completed⟩ own .givenUp).orElse
    (limit.map (max now)) .limit).orElse (stop.map (max now)) .shutdown

def beginRequest (r : Request) : World :=
  match r.call? with
  | some c => w.begin c
  | none => w

def finishRequest (r : Request) : World :=
  match r.call? with
  | some c => w.finish c
  | none => w

/-- The answer to a request that is completed, or given up by its own bound. -/
def settle (time : Nat) (givenUp : Bool) : (r : Request) → r.Answer × World
  | .call c => w.reply time c
  | .callWithin c _ =>
    if givenUp then (none, w) else let (a, w) := w.reply time c; (some a, w)
  | .pause .. => ((), w)

/-- The answer to a wait that ends as planned. -/
def answer (p : Plan) (r : Request) : Except Abort r.Answer × World :=
  let w := w.finishRequest r
  match p.ending with
  | .completed => let (a, w) := w.settle p.instant false r; (.ok a, w)
  | .givenUp => let (a, w) := w.settle p.instant true r; (.ok a, w)
  | .limit => (.error .limit, w)
  | .shutdown => (.error .shutdown, w)

end World

end FleetMend
