import FleetMend.Json.Value
import FleetMend.Settings.Basic

/-!
Settings as JSON.

* `Settings.toJson`: every setting by its name.
* `Settings.readBy`: the settings by a way of reading records and numbers; what is left out keeps
  its default.
* `Settings.ofJson?`: the way that takes every value as it is.
-/

namespace FleetMend

namespace Settings

/-! ### Writing -/

def toJson (s : Settings) : Json :=
  .obj [("requeue_after_secs", .ofNat s.requeueAfter), ("io_timeout_secs", .ofNat s.ioTimeout),
    ("cycle_timeout_secs", .ofNat s.cycleTimeout),
    ("max_concurrent_resources", .ofNat s.maxConcurrent),
    ("pruning", .obj [("retry_delay_secs", .ofNat s.pruning.retryDelay),
      ("complete_poll_delay_secs", .ofNat s.pruning.pollDelay),
      ("candidate_timeout_secs", .ofNat s.pruning.candidateTimeout)]),
    ("drift", .obj [("min_ready_secs", .ofNat s.drift.minReady)]),
    ("persist", .obj [("max_attempts", .ofNat s.persist.maxAttempts.toNat),
      ("backoff_ms", .ofNat s.persist.backoff), ("jitter", .ofBinary64 s.persist.jitter)])]

/-! ### Reading -/

/-- A way of reading records and numbers. -/
structure Reading where
  members? : List String → Json → Option Json.Members
  nat64? : Json → Option Nat
  uint32? : Json → Option UInt32
  binary64? : Json → Option Binary64

namespace Reading

variable (r : Reading)

def pruning? (j : Json) : Option PruningSettings := do
  let m ← r.members? ["retry_delay_secs", "complete_poll_delay_secs", "candidate_timeout_secs"] j
  let d : PruningSettings := {}
  some {
    retryDelay := ← m.defaulted "retry_delay_secs" r.nat64? d.retryDelay
    pollDelay := ← m.defaulted "complete_poll_delay_secs" r.nat64? d.pollDelay
    candidateTimeout := ← m.defaulted "candidate_timeout_secs" r.nat64? d.candidateTimeout }

def drift? (j : Json) : Option DriftSettings := do
  let m ← r.members? ["min_ready_secs"] j
  let d : DriftSettings := {}
  some { minReady := ← m.defaulted "min_ready_secs" r.nat64? d.minReady }

def persist? (j : Json) : Option PersistSettings := do
  let m ← r.members? ["max_attempts", "backoff_ms", "jitter"] j
  let d : PersistSettings := {}
  some {
    maxAttempts := ← m.defaulted "max_attempts" r.uint32? d.maxAttempts
    backoff := ← m.defaulted "backoff_ms" r.nat64? d.backoff
    jitter := ← m.defaulted "jitter" r.binary64? d.jitter }

end Reading

/-- The settings by a way of reading; what is left out keeps its default. -/
def readBy (r : Reading) (j : Json) : Option Settings := do
  let m ← r.members? ["requeue_after_secs", "io_timeout_secs", "cycle_timeout_secs",
    "max_concurrent_resources", "pruning", "drift", "persist"] j
  let d : Settings := {}
  some {
    requeueAfter := ← m.defaulted "requeue_after_secs" r.nat64? d.requeueAfter
    ioTimeout := ← m.defaulted "io_timeout_secs" r.nat64? d.ioTimeout
    cycleTimeout := ← m.defaulted "cycle_timeout_secs" r.nat64? d.cycleTimeout
    maxConcurrent := ← m.defaulted "max_concurrent_resources" r.nat64? d.maxConcurrent
    pruning := ← m.defaulted "pruning" r.pruning? d.pruning
    drift := ← m.defaulted "drift" r.drift? d.drift
    persist := ← m.defaulted "persist" r.persist? d.persist }

/-- Every value as it is. -/
def plainReading : Reading where
  members? := Json.members?
  nat64? := Json.nat64?
  uint32? := Json.uint32?
  binary64? := Json.binary64?

def ofJson? : Json → Option Settings := readBy plainReading

end Settings

end FleetMend
