import TaskScheduler.System
import TaskScheduler.Json

/-
  What the owner and the clients of a service see of it, and what only the owner may do.
-/
namespace TaskScheduler

/-- What the owner of a service may do and its clients may not. -/
inductive OwnerOperation where
  | stop
  | stopNow
  | resizePool
  | replaceFactory
  | stopPool
deriving DecidableEq, Repr

/-- The operation as it is named in a refusal. -/
def OwnerOperation.text : OwnerOperation → String
  | stop => "shutdown"
  | stopNow => "shutdown_now"
  | resizePool => "set_core_pool_size"
  | replaceFactory => "set_thread_factory"
  | stopPool => "backend pool shutdown"

/-- The numbers of a service at one moment. -/
structure Stats where
  name : String
  state : Lifecycle
  coreSize : Nat
  live : Nat
  largest : Nat
  active : Nat
  idle : Nat
  queued : Nat
  pendingDelayed : Nat
  completed : Nat
  pumpStarts : Nat
deriving DecidableEq, Repr

/-- The numbers as a JSON object. -/
def Stats.toJson (s : Stats) : Json :=
  .object [
    ("name", .string s.name),
    ("state", .string s.state.tag),
    ("core_pool_size", .nat s.coreSize),
    ("current_pool_size", .nat s.live),
    ("largest_pool_size", .nat s.largest),
    ("active_workers", .nat s.active),
    ("idle_workers", .nat s.idle),
    ("queued_in_pool", .nat s.queued),
    ("pending_delayed", .nat s.pendingDelayed),
    ("completed_tasks", .nat s.completed),
    ("dispatcher_starts", .nat s.pumpStarts)]

namespace System

variable {α : Type}

def stats (s : System α) : Stats where
  name := s.name
  state := s.lifecycle
  coreSize := s.pool.coreSize
  live := s.pool.live
  largest := s.pool.largest
  active := s.pool.active
  idle := s.pool.idle
  queued := s.pool.queue.length
  pendingDelayed := s.queue.size
  completed := s.pool.completed
  pumpStarts := s.pumpStarts

/-- Refuses a client what only the owner may do. -/
def refuse (s : System α) (operation : OwnerOperation) : System α × ServiceError :=
  (s.report [.maintenanceRefused s.name operation.text],
    .forbidden (operation.text ++ " is not allowed on the shared scheduler '" ++ s.name ++
      "'; only its owner may do this"))

/-- The owner changes the core size; zero is refused. -/
def resize (s : System α) (size : Nat) : System α × Except ServiceError (Pool.Answer Nat) :=
  if size = 0 then (s, .error (.invalidArgument "core pool size must be at least 1"))
  else
    let (s', answer) := s.setCoreSize size
    (s', .ok answer)

/-- What is left to do when the time that the owner grants a disposal is over: the owner is told the
numbers, and the log the tasks. -/
def residual (s : System α) (timeout : Duration) : System α × (Nat × Nat) :=
  let tasks := s.pending
  let answer := (tasks.length, s.pool.active)
  (s.report (.notTerminatedInTime s.name answer.1 answer.2 timeout ::
    tasks.map (.stillPending s.name)), answer)

/-- The heartbeat event of a service. -/
def heartbeat (s : System α) : Event :=
  .heartbeat s.name s.pool.live s.pool.active s.queue.size s.pool.completed

/-- The client's view of the service as it is shown to a programmer. -/
def debugText (s : System α) : String :=
  "AppScheduler \x7b name: " ++ Text.quoted s.name ++ ", state: " ++ s.lifecycle.constantName ++
    " \x7d"

/-- The owner's view of the service as it is shown to a programmer. -/
def ownerDebugText (s : System α) : String :=
  "SchedulerOwner \x7b scheduler: " ++ s.debugText ++ " \x7d"

end System

/-- The handle of a record as it is shown to a programmer. -/
def Record.debugText {α : Type} (r : Record α) : String :=
  "TaskHandle \x7b id: " ++ Text.Numeral.ofNat r.id ++ ", state: " ++ r.state.constantName ++
    ", repeat: " ++ r.recurrence.debugText ++ " \x7d"

/-- The time in nanoseconds until the trigger of a record that is not yet terminal. -/
def Record.delay {α : Type} (r : Record α) (now : Instant) : Nat :=
  if r.isFinal then 0 else elapsedSince r.trigger now

end TaskScheduler
