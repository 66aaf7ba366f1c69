import FleetMend.Rehearsal.Plan
import FleetMend.Scheduler.Gate
import FleetMend.Scheduler.Routine
import FleetMend.Scheduler.Workers

/-!
The tasks of a scheduler together in a scripted world, on one virtual clock.

* `Ensemble.poll`: lets one task run until it has to wait.
* `Ensemble.drain`: lets the tasks run that can, in the order in which they were woken.
* `Ensemble.sleepFor`, `Ensemble.callAll`, `Ensemble.awaitDiscovery`: what the one who directs the
  rehearsal waits for.  The clock moves on to the next instant only when no task can run; where the
  one who directs is woken too, it goes first.
-/

namespace FleetMend

/-- What a task waits for. -/
inductive Waiting
  /-- The end of a request, as planned. -/
  | request (plan : Plan)
  | lock
  | permit
  /-- An instant, or news of the signal. -/
  | rest (instant : Nat)
  /-- The end of the workers. -/
  | workers (awaited : List Nat)

/-- The instant at which a wait ends by itself, if it does. -/
def Waiting.instant? : Waiting → Option Nat
  | request plan => some plan.instant
  | rest instant => some instant
  | lock | permit | workers _ => none

/-- A task that has not ended, with what it waits for and since which turn. -/
structure Actor where
  routine : Routine Stage
  waiting : Option (Nat × Waiting) := none

structure Ensemble where
  orchestrator : Orchestrator
  /-- What the clock on the wall shows at zero. -/
  epoch : Time
  now : Nat := 0
  world : World := {}
  gate : Gate
  signal : Signal := {}
  workers : Workers := {}
  actors : SortedMap Nat Actor := ∅
  /-- The tasks that have been woken and have not run since, in order. -/
  ready : List Nat := []
  /-- The calls that the one who directs waits for. -/
  callers : List Nat := []
  /-- One of these calls has been woken. -/
  callersWoken : Bool := false
  /-- What the calls have come to, each at its time. -/
  outcomes : SortedMap Nat (Outcome × Nat) := ∅
  /-- The number of the next task, and of the next wait. -/
  nextActor : Nat := 0
  nextTurn : Nat := 0

/-- The answer to a question, or what there is to wait for first. -/
inductive Attempt (q : SchedulerQuery)
  | answered (a : q.Answer) (e : Ensemble)
  | blocked (w : Waiting) (e : Ensemble)

namespace Ensemble

/-- An ensemble before anything has happened. -/
def start (o : Orchestrator) (epoch : Time) : Ensemble where
  orchestrator := o
  epoch := epoch
  gate := { room := o.settings.parallelism }

variable (e : Ensemble)

/-! ### Waking -/

/-- A task can run again. -/
def wake (id : Nat) : Ensemble :=
  if e.callers.contains id then { e with callersWoken := true }
  else if e.ready.contains id then e
  else { e with ready := e.ready ++ [id] }

def wakeAll (ids : List Nat) : Ensemble := ids.foldl wake e

/-- The tasks whose wait fulfils a condition, in the order in which they began to wait. -/
def waitingFor (condition : Waiting → Bool) : List Nat :=
  let waits := e.actors.entries.filterMap fun (id, a) =>
    match a.waiting with
    | some (turn, w) => if condition w then some (turn, id) else none
    | none => none
  (waits.mergeSort fun a b => a.1 ≤ b.1).map (·.2)

/-- The clock shows an instant, and the waits end that are over by then. -/
def arrive (instant : Nat) : Ensemble :=
  { e with now := instant }.wakeAll <| e.waitingFor fun w =>
    match w.instant? with
    | some t => t ≤ instant
    | none => false

/-- The next instant at which a wait ends. -/
def nextInstant? : Option Nat :=
  (e.actors.values.filterMap fun a => a.waiting.bind (·.2.instant?)).min?

/-- Sends the signal for a shutdown. -/
def shutdown : Ensemble :=
  { e with signal := e.signal.send true }.wakeAll <| e.waitingFor fun w =>
    match w with
    | .request _ | .rest _ => true
    | _ => false

/-! ### Tasks -/

/-- A new task, by its number. -/
def add (routine : Routine Stage) : Nat × Ensemble :=
  (e.nextActor,
    { e with
      actors := e.actors.insert e.nextActor { routine }
      nextActor := e.nextActor + 1 })

/-- A new task that can run. -/
def spawn (routine : Routine Stage) : Nat × Ensemble :=
  let (id, e) := e.add routine
  (id, e.wake id)

/-- Starts a worker for a fleet, unless one is at work. -/
def startWorker (key : FleetKey) : Ensemble :=
  match e.workers.start? key e.nextActor with
  | none => e
  | some workers => ({ e with workers }.spawn (e.orchestrator.work key)).2

/-- A task has ended, and whoever waits for it can go on. -/
def retire (id : Nat) : Ensemble :=
  let e := { e with actors := e.actors.erase id, workers := e.workers.finish id }
  e.wakeAll <| e.waitingFor fun w =>
    match w with
    | .workers awaited => awaited.contains id
    | _ => false

/-- A task has come to a stage: it goes on with its next round, or ends. -/
def settleStage (id : Nat) (stage : Stage) : Ensemble :=
  match stage.next? e.orchestrator with
  | some routine => { e with actors := e.actors.insert id { routine } }
  | none =>
    let e := e.retire id
    match stage with
    | .answered outcome => { e with outcomes := e.outcomes.insert id (outcome, e.now) }
    | _ => e

/-! ### Questions -/

/-- Waits for a request: it is made at the first attempt. -/
def attemptAwait (r : Request) (limit : Nat) (waiting : Option Waiting) :
    Attempt (.cycle (.await r limit)) :=
  let stop := if e.signal.value then some e.now else none
  let (plan, world) := match waiting with
    | some (.request plan) => (plan.orElse stop .shutdown, e.world)
    | _ => (e.world.plan e.now r (some limit) stop, e.world.beginRequest r)
  let e := { e with world }
  if plan.instant ≤ e.now then
    let (a, world) := e.world.answer { plan with instant := e.now } r
    .answered a { e with world }
  else .blocked (.request plan) e

def attemptCycle (waiting : Option Waiting) : (q : Query) → Attempt (.cycle q)
  | .await r limit => e.attemptAwait r limit waiting
  | .clock => .answered e.now e
  | .wallClock => .answered (e.epoch.afterMillis e.now) e
  | .shuttingDown => .answered e.signal.value e
  | .announce key event => .answered () { e with world := e.world.announce key event }

/-- A call is in line once it waits. -/
def attemptLock (id : Nat) (key : FleetKey) (waiting : Option Waiting) : Attempt (.lock key) :=
  let e := if waiting.isSome then e else { e with gate := e.gate.enter key id }
  if e.gate.hasLock key id then .answered () e else .blocked .lock e

def attemptPermit (id : Nat) (waiting : Option Waiting) : Attempt .permit :=
  let e := if waiting.isSome then e else { e with gate := e.gate.apply id }
  if e.gate.hasPermit id then .answered () e else .blocked .permit e

def leave (id : Nat) (key : FleetKey) : Ensemble :=
  { e with gate := e.gate.leave key id }.wakeAll (e.gate.successors key id)

def attemptRest (instant seen : Nat) : Attempt (.rest instant seen) :=
  if instant ≤ e.now then .answered none e
  else match e.signal.news? seen with
    | some version => .answered (some version) e
    | none => .blocked (.rest instant) e

def listKeys : Except ControlError (List FleetKey) :=
  match e.world.faults.listKeys with
  | some fault => .error (fault.error "resource" "")
  | none => .ok e.world.store.keys

def attemptJoin (waiting : Option Waiting) : Attempt .joinWorkers :=
  let (awaited, workers) := match waiting with
    | some (.workers awaited) => (awaited, e.workers)
    | _ => e.workers.release
  let e := { e with workers }
  if e.workers.areFinished awaited then .answered () e else .blocked (.workers awaited) e

/-- The answer to the question of a task, if there is one already. -/
def attempt (id : Nat) (waiting : Option Waiting) : (q : SchedulerQuery) → Attempt q
  | .cycle q => e.attemptCycle waiting q
  | .lock key => e.attemptLock id key waiting
  | .permit => e.attemptPermit id waiting
  | .leave key => .answered () (e.leave id key)
  | .subscribe => .answered e.signal.subscribe e
  | .rest instant seen => e.attemptRest instant seen
  | .listKeys => .answered e.listKeys e
  | .startWorkers keys => .answered () (keys.foldl startWorker e)
  | .joinWorkers => e.attemptJoin waiting

/-! ### Running -/

/-- A task begins to wait, or goes on waiting in its turn. -/
def keepWaiting (id : Nat) (routine : Routine Stage) (before : Option (Nat × Waiting))
    (w : Waiting) : Ensemble :=
  match before with
  | some (turn, _) => { e with actors := e.actors.insert id ⟨routine, some (turn, w)⟩ }
  | none =>
    { e with
      actors := e.actors.insert id ⟨routine, some (e.nextTurn, w)⟩
      nextTurn := e.nextTurn + 1 }

/-- Lets a task run until it has to wait, for as many questions as the fuel lasts. -/
def poll : (fuel id : Nat) → Ensemble → Ensemble
  | 0, _, e => e
  | fuel + 1, id, e =>
    match e.actors.find? id with
    | none => e
    | some ⟨.done stage, _⟩ => poll fuel id (e.settleStage id stage)
    | some ⟨.ask q next, waiting⟩ =>
      match e.attempt id (waiting.map (·.2)) q with
      | .answered a e => poll fuel id { e with actors := e.actors.insert id ⟨next a, none⟩ }
      | .blocked w e => e.keepWaiting id (.ask q next) waiting w

/-- Lets the tasks run that can, one after the other. -/
def drain : (fuel : Nat) → Ensemble → Ensemble
  | 0, e => e
  | fuel + 1, e =>
    match e.ready with
    | [] => e
    | id :: rest => drain fuel (poll fuel id { e with ready := rest })

/-- Runs until the clock shows an instant.  The waits that end then are over, but nobody has run
yet. -/
def runUntil : (fuel instant : Nat) → Ensemble → Ensemble
  | 0, _, e => e
  | fuel + 1, instant, e =>
    let e := e.drain fuel
    match e.nextInstant? with
    | none => e.arrive instant
    | some t => if t < instant then runUntil fuel instant (e.arrive t) else e.arrive instant

/-- Lets time pass; no time is no wait. -/
def sleepFor (fuel millis : Nat) : Ensemble :=
  if millis = 0 then e else e.runUntil fuel (e.now + millis)

/-- Lets the calls run that are waited for, in order. -/
def pollCallers (fuel : Nat) : Ensemble :=
  e.callers.foldl (fun e id => e.poll fuel id) { e with callersWoken := false }

def callersDone : Bool := e.callers.all fun id => !e.actors.contains id

/-- Runs until all calls that are waited for have their outcome. -/
def runCallers : (fuel : Nat) → Ensemble → Ensemble
  | 0, e => e
  | fuel + 1, e =>
    let e := if e.callersWoken then e.pollCallers fuel else e
    if e.callersDone then e
    else
      let e := e.drain fuel
      if e.callersWoken then runCallers fuel e
      else match e.nextInstant? with
        | none => e
        | some t => runCallers fuel (e.arrive t)

/-- Calls for a cycle of each of the fleets and waits for the outcomes, each with its time. -/
def callAll (fuel : Nat) (keys : List FleetKey) : List (Outcome × Nat) × Ensemble :=
  let (ids, e) := keys.foldl (fun (ids, e) key =>
    let (id, e) := e.add (e.orchestrator.call key)
    (ids ++ [id], e)) (([] : List Nat), e)
  let e := { e with callers := ids, callersWoken := true }.runCallers fuel
  (ids.filterMap e.outcomes.find?, { e with callers := [] })

/-- Starts the discovery, and lets it have its first look. -/
def startDiscovery (fuel interval : Nat) : Nat × Ensemble :=
  let (id, e) := e.spawn (discover interval)
  (id, e.drain fuel)

/-- Runs until a task has ended. -/
def runToEnd : (fuel id : Nat) → Ensemble → Ensemble
  | 0, _, e => e
  | fuel + 1, id, e =>
    if !e.actors.contains id then e
    else
      let e := e.drain fuel
      if !e.actors.contains id then e
      else match e.nextInstant? with
        | none => e
        | some t => runToEnd fuel id (e.arrive t)

end Ensemble

end FleetMend
