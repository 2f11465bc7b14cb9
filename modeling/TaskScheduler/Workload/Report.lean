import TaskScheduler.Service
import TaskScheduler.Log

/-
  How a workload reports values, errors, numbers and metrics: as JSON.
-/
namespace TaskScheduler

def Duration.toJson (d : Duration) : Json := .array [.nat d.seconds, .nat d.subsecNanos]

def Payload.toJson : Payload → Json
  | literal t => .object [("str", .string t)]
  | owned t => .object [("string", .string t)]
  | code n => .object [("code", .int n)]

namespace Workload

/-- An error by its kind and its words. -/
def errorJson (kind message : String) : Json :=
  .object [("error", .string kind), ("message", .string message)]

/-- A panic that went through a call. -/
def panicJson (f : Failure) : Json := errorJson "panic" f.message

end Workload

open Workload

def ServiceError.kind : ServiceError → String
  | rejected .. => "Rejected"
  | forbidden _ => "PolicyViolation"
  | invalidArgument _ => "InvalidArgument"
  | threadSpawn .. => "ThreadSpawn"

def ServiceError.toJson (e : ServiceError) : Json := errorJson e.kind e.text

def TaskError.kind : TaskError → String
  | cancelled => "Cancelled"
  | failed _ => "Failed"
  | timeout _ => "Timeout"
  | rejected _ => "Rejected"
  | outcomeTaken => "OutcomeTaken"

def TaskError.toJson (e : TaskError) : Json :=
  match e with
  | failed f =>
    .object [("error", .string e.kind), ("message", .string e.text), ("payload", f.payload.toJson)]
  | _ => errorJson e.kind e.text

def PoolError.kind : PoolError → String
  | shutdown => "Shutdown"
  | spawn _ => "Spawn"

def PoolError.toJson (e : PoolError) : Json := errorJson e.kind e.text

def LogError.kind : LogError → String
  | invalidFilter _ => "InvalidFilter"
  | unknownFormat _ => "UnknownFormat"
  | fileOpen _ => "FileOpen"
  | alreadyInitialized => "AlreadyInitialized"
  | panicked _ => "panic"

def LogError.toJson (e : LogError) : Json := errorJson e.kind e.text

namespace Workload

/-- A value under the word `ok`, or an error. -/
def outcomeJson : Except TaskError Json → Json
  | .ok value => .object [("ok", value)]
  | .error e => e.toJson

/-- A time in nanoseconds, rounded up to whole seconds. -/
def wholeSeconds (nanos : Nat) : Json := .nat ((nanos + nanosPerSecond - 1) / nanosPerSecond)

def keyJson (trigger : String) (k : Key) : Json := .array [.string trigger, .nat k.id]

/-- How a call on the pool ended. -/
def poolAnswerJson {β : Type} (ok : β → Json) : Pool.Answer β → Json
  | .ok b => ok b
  | .error e => e.toJson
  | .unwound f => panicJson f

/-- The numbers of a pool. -/
def poolJson (p : Pool) : Json :=
  .object [("core", .nat p.coreSize), ("live", .nat p.live), ("largest", .nat p.largest),
    ("active", .nat p.active), ("idle", .nat p.idle), ("queued", .nat p.queue.length),
    ("completed", .nat p.completed)]

/-- The numbers of a service. -/
def statsJson (s : Stats) (withLargest : Bool) : Json :=
  .object ([("state", .string s.state.tag), ("core", .nat s.coreSize), ("live", .nat s.live)] ++
    (if withLargest then [("largest", .nat s.largest)] else []) ++
    [("active", .nat s.active), ("idle", .nat s.idle), ("queued", .nat s.queued),
      ("delayed", .nat s.pendingDelayed), ("completed", .nat s.completed),
      ("pump_starts", .nat s.pumpStarts)])

/-- Everything that was published while a workload ran. -/
def metricsJson {α : Type} (s : System α) : Json :=
  let gauge (name : String) (value : Option Nat) := value.toList.map fun n => (name, Json.nat n)
  .object [
    ("counters", .object (s.metrics.counters.map fun (k, n) => (k, .nat n))),
    ("gauges", .object (gauge Metrics.queueDepthGauge s.queue.depthGauge ++
      gauge Metrics.poolThreadsGauge s.pool.threadsGauge)),
    ("samples", .object (s.metrics.samples.map fun (k, n) => (k, .nat n)))]

/-- The lines of the log, without the events that are only of use to a programmer. -/
def logsJson (events : List Event) : Json :=
  .strings ((events.filter (·.level.rank ≤ Log.Level.info.rank)).map (·.line))

end Workload

end TaskScheduler
