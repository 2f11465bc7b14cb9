import TaskScheduler.Duration
import TaskScheduler.Failure
import TaskScheduler.Json

/-
  Scripts: what a task body does when it is run, for workloads that are written down in advance.
-/
namespace TaskScheduler.Workload

/-- The name under which a workload speaks of a task. -/
abbrev Label := String

/-- What a body waits for. -/
inductive Wait where
  /-- The gate is open; a body that polls also goes on once it is interrupted. -/
  | gate (name : String) (polls : Bool)
  /-- So many bodies have come to the barrier. -/
  | barrier (name : String) (parties : Nat)
  /-- The body has come to the barrier and waits for the others. -/
  | gathering (name : String) (parties : Nat)
  | sleep (time : Duration)
  /-- The body sleeps until an instant. -/
  | sleepingUntil (wakeAt : Int)
  /-- The act that comes next waits until a record is in its last state, up to an instant. -/
  | watching (record : Nat) (limit : Int)
deriving DecidableEq, Repr

/-- A section of a record that a workload carries out by itself. -/
inductive RecordStep where
  | info
  | run
  | cancel (mayInterrupt : Bool)
  | giveUp
  | reject (reason : String)
  /-- Moves the trigger to an offset in nanoseconds. -/
  | postpone (offset : Int)
  | noteFailure
  | take
  | wait (timeout : Duration)
  | offer
  | putBack
  | remove
deriving DecidableEq, Repr

mutual

/-- What a body does: it waits for some things in turn and then comes to its end. -/
inductive Script where
  | mk (waits : List Wait) (ending : Ending)

/-- How a body ends. -/
inductive Ending where
  | panic (payload : Payload)
  /-- Acts in turn; the value is the list of their answers. -/
  | acts (acts : List Act)
  /-- The value is the name of the thread. -/
  | threadName
  /-- The value tells whether the task was interrupted. -/
  | interrupted
  | value (value : Json)

/-- What a body does to a task, by default to its own. -/
inductive Act where
  /-- Asks whether the task on this thread was interrupted. -/
  | interrupted
  | state (on : Option Label)
  /-- Cancels the record alone. -/
  | cancel (on : Option Label) (mayInterrupt : Bool)
  /-- Cancels by the handle of the task. -/
  | cancelByHandle (on : Option Label) (mayInterrupt : Bool)
  /-- Asks for the state by the handle of the task. -/
  | stateByHandle (on : Option Label)
  | submit (label : Label) (body : Script)
  | record (on : Option Label) (step : RecordStep)

end

instance : Inhabited Ending := ⟨.value .null⟩
instance : Inhabited Script := ⟨.mk [] default⟩
instance : Inhabited Act := ⟨.interrupted⟩

end TaskScheduler.Workload
