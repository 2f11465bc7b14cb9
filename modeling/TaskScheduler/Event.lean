import TaskScheduler.Log
import TaskScheduler.Error
import TaskScheduler.Text.Numeral
import TaskScheduler.Json
import TaskScheduler.Metrics

/-
  The events that the service reports in its log, with their level, words and fields.
-/
namespace TaskScheduler

/-- Something worth a line in the log. -/
inductive Event where
  | started (scheduler : String) (coreSize : Nat)
  | shuttingDown (scheduler : String) (pendingDelayed : Nat)
  | terminated (scheduler : String)
  | notTerminatedInTime (scheduler : String) (pendingDelayed activeWorkers : Nat)
      (timeout : Duration)
  | stillPending (scheduler task : String)
  | maintenanceRefused (scheduler operation : String)
  | handoffFault (scheduler : String) (task : Nat) (failure : Failure)
  | handoffAbandoned (scheduler : String) (task attempts : Nat) (reason : String)
  | handoffDelayed (scheduler : String) (task attempts : Nat) (retryIn : Duration)
      (reason : String)
  | notRescheduled (scheduler : String) (task : Nat) (error : ServiceError)
  | drainedByCaller (scheduler : String) (error : ServiceError)
  | poolNotGrown (error : PoolError) (live : Nat)
  | poolNotGrownForQueue (error : PoolError) (live : Nat)
  | prestartStopped (error : PoolError) (requested started : Nat)
  | strandedRejected (task : Nat) (error : PoolError)
  | heartbeat (scheduler : String) (poolSize activeWorkers pendingDelayed completed : Nat)
  | pumpStarted (scheduler : String) (starts : Nat)
  | pumpIdle (scheduler : String)
  | scheduled (scheduler : String) (task : Nat) (kind : SubmissionKind)
  | dispatching (scheduler : String) (task : Nat) (early : Bool)
  | periodicGivenUp (scheduler : String) (task : Nat)
  | delayedGivenUp (scheduler : String) (task : Nat)
  | queueDrained (scheduler : String)
  | workerStarted (worker live core : Nat)
  | workerRetired (worker : Nat)
deriving DecidableEq, Repr

namespace Event

/-- The value of a field of an event. -/
inductive Value where
  | text (s : String)
  | number (n : Nat)
  | flag (b : Bool)
deriving DecidableEq, Repr

def Value.toText : Value → String
  | text s => s
  | number n => Text.Numeral.ofNat n
  | flag b => if b then "true" else "false"

def Value.toJson : Value → Json
  | text s => .string s
  | number n => .nat n
  | flag b => .bool b

/-- How important the event is. -/
def level : Event → Log.Level
  | started .. | shuttingDown .. | terminated .. | heartbeat .. => .info
  | handoffFault .. | handoffAbandoned .. | notRescheduled .. | strandedRejected .. => .error
  | scheduled .. | dispatching .. => .trace
  | pumpStarted .. | pumpIdle .. | periodicGivenUp .. | delayedGivenUp .. | queueDrained ..
  | workerStarted .. | workerRetired .. => .debug
  | _ => .warn

/-- What happened. -/
def message : Event → String
  | started .. => "scheduler started"
  | shuttingDown .. => "scheduler shutting down"
  | terminated .. => "scheduler terminated"
  | notTerminatedInTime .. => "scheduler did not terminate in time"
  | stillPending .. => "still pending"
  | maintenanceRefused .. => "refused maintenance call on shared scheduler"
  | handoffFault .. => "fault while handing task to backend pool"
  | handoffAbandoned .. => "giving up on handing task to backend pool"
  | handoffDelayed .. => "handing task to backend pool failed; will retry"
  | notRescheduled .. => "cannot reschedule periodic task"
  | drainedByCaller .. => "dispatcher unavailable; draining on the disposing thread"
  | poolNotGrown .. => "backend pool could not grow; task queued"
  | poolNotGrownForQueue .. => "backend pool could not grow for queued work"
  | prestartStopped .. => "backend pool prestart stopped early"
  | strandedRejected .. => "rejecting task stranded in backend pool"
  | heartbeat .. => "heartbeat"
  | pumpStarted .. => "dispatcher started"
  | pumpIdle .. => "dispatcher idle; exiting"
  | scheduled .. => "task scheduled"
  | dispatching .. => "dispatching task"
  | periodicGivenUp .. => "periodic task cancelled by shutdown"
  | delayedGivenUp .. => "delayed task cancelled by shutdown"
  | queueDrained .. => "delay queue drained; stopping backend pool"
  | workerStarted .. => "backend worker started"
  | workerRetired .. => "backend worker retired"

/-- The fields of the event, in the order in which they are shown. -/
def fields : Event → List (String × Value)
  | started s core => [("scheduler", .text s), ("core_pool_size", .number core)]
  | shuttingDown s pending => [("scheduler", .text s), ("pending_delayed", .number pending)]
  | terminated s => [("scheduler", .text s)]
  | notTerminatedInTime s pending active timeout =>
    [("scheduler", .text s), ("pending_delayed", .number pending),
      ("active_workers", .number active), ("timeout", .text timeout.text)]
  | stillPending s task => [("scheduler", .text s), ("task", .text task)]
  | maintenanceRefused s operation => [("scheduler", .text s), ("operation", .text operation)]
  | handoffFault s task failure =>
    [("scheduler", .text s), ("task", .number task), ("error", .text failure.text)]
  | handoffAbandoned s task attempts reason =>
    [("scheduler", .text s), ("task", .number task), ("attempts", .number attempts),
      ("error", .text reason)]
  | handoffDelayed s task attempts retryIn reason =>
    [("scheduler", .text s), ("task", .number task), ("attempts", .number attempts),
      ("retry_in", .text retryIn.text), ("error", .text reason)]
  | notRescheduled s task e =>
    [("scheduler", .text s), ("task", .number task), ("error", .text e.text)]
  | drainedByCaller s e => [("scheduler", .text s), ("error", .text e.text)]
  | poolNotGrown e live | poolNotGrownForQueue e live =>
    [("error", .text e.text), ("live", .number live)]
  | prestartStopped e requested count =>
    [("error", .text e.text), ("requested", .number requested), ("started", .number count)]
  | strandedRejected task e => [("task", .number task), ("error", .text e.text)]
  | heartbeat s size active pending completed =>
    [("scheduler", .text s), ("current_pool_size", .number size),
      ("active_workers", .number active), ("pending_delayed", .number pending),
      ("completed_tasks", .number completed)]
  | pumpStarted s starts => [("scheduler", .text s), ("starts", .number starts)]
  | pumpIdle s | queueDrained s => [("scheduler", .text s)]
  | scheduled s task kind =>
    [("scheduler", .text s), ("task", .number task), ("kind", .text kind.tag)]
  | dispatching s task early =>
    [("scheduler", .text s), ("task", .number task), ("early", .flag early)]
  | periodicGivenUp s task | delayedGivenUp s task =>
    [("scheduler", .text s), ("task", .number task)]
  | workerStarted worker live core =>
    [("worker", .number worker), ("live", .number live), ("core", .number core)]
  | workerRetired worker => [("worker", .number worker)]

/-- The event on one line: level, words, and the fields behind a bar. -/
def line (e : Event) : String :=
  let shown := e.fields.map fun (name, value) => name ++ "=" ++ value.toText
  e.level.text ++ " " ++ e.message ++ (if shown.isEmpty then "" else " | ") ++ " ".intercalate shown

end Event

end TaskScheduler
