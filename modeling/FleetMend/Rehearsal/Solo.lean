import FleetMend.Rehearsal.Plan

/-!
One errand or cycle alone in a scripted world.

* `Solo.runErrand`, `Solo.runCycle`: the result, and the world and the clock after it.
-/

namespace FleetMend

/-- A world with a clock. -/
structure Solo where
  /-- The milliseconds that the clock shows. -/
  now : Nat := 0
  world : World
  /-- What the clock on the wall shows at zero. -/
  epoch : Time
  /-- When a shutdown will begin. -/
  shutdownAt : Option Nat := none

namespace Solo

variable {α : Type}

def shuttingDown (s : Solo) : Bool :=
  match s.shutdownAt with
  | some t => t ≤ s.now
  | none => false

/-- Waits for a request as planned. -/
def wait (s : Solo) (r : Request) (limit stop : Option Nat) : Except Abort r.Answer × Solo :=
  let p := s.world.plan s.now r limit stop
  let (a, world) := (s.world.beginRequest r).answer p r
  (a, { s with now := p.instant, world })

/-- The answer to a request that nothing bounds but itself. -/
def answerRequest (r : Request) (s : Solo) : r.Answer × Solo :=
  let p := s.world.plan s.now r none none
  let w := (s.world.beginRequest r).finishRequest r
  let (a, world) := w.settle p.instant (p.ending = .givenUp) r
  (a, { s with now := p.instant, world })

/-- The answer to a question of a cycle. -/
def answerQuery (q : Query) (s : Solo) : q.Answer × Solo :=
  match q with
  | .await r limit => s.wait r (some limit) s.shutdownAt
  | .clock => (s.now, s)
  | .wallClock => (s.epoch.afterMillis s.now, s)
  | .shuttingDown => (s.shuttingDown, s)
  | .announce key event => ((), { s with world := s.world.announce key event })

def runErrand (errand : Errand α) (s : Solo) : α × Solo := errand.run answerRequest s

def runCycle (cycle : Cycle α) (s : Solo) : α × Solo := cycle.run answerQuery s

end Solo

end FleetMend
