import TaskScheduler.Clock
import TaskScheduler.Error
import TaskScheduler.Metrics
import TaskScheduler.Text.Numeral

/-
  Task records: one unit of work with its schedule, its state and its outcome.

  Every function here is one section under the lock of the record, so cancelling is atomic with
  respect to running: a body is entered only after the record has moved from `pending` to
  `running`.
-/
namespace TaskScheduler

/-- Where a record is in its life. -/
inductive RecordState where
  | pending
  | running
  | cancelled
  | done
  | failed
deriving DecidableEq, Repr, Inhabited

namespace RecordState

/-- A state that is never left. -/
def isFinal : RecordState → Bool
  | cancelled | done | failed => true
  | _ => false

def tag : RecordState → String
  | pending => "pending"
  | running => "running"
  | cancelled => "cancelled"
  | done => "done"
  | failed => "failed"

def constantName : RecordState → String
  | pending => "Pending"
  | running => "Running"
  | cancelled => "Cancelled"
  | done => "Done"
  | failed => "Failed"

end RecordState

/-- Whether and how a task is run again. -/
inductive Recurrence where
  | once
  /-- The next trigger is the previous trigger plus the period. -/
  | fixedRate (period : Duration)
  /-- The next trigger is the end of the run plus the period. -/
  | fixedDelay (period : Duration)
deriving DecidableEq, Repr

namespace Recurrence

def repeats : Recurrence → Bool
  | once => false
  | _ => true

/-- The trigger of the next run. -/
def nextRun (last previous completed : Instant) : Recurrence → Instant
  | once => previous
  | fixedRate period => deadline last previous period
  | fixedDelay period => deadline last completed period

/-- The recurrence as a value is shown to a programmer. -/
def debugText : Recurrence → String
  | once => "Once"
  | fixedRate period => "FixedRate(" ++ period.text ++ ")"
  | fixedDelay period => "FixedDelay(" ++ period.text ++ ")"

end Recurrence

/-- The order of the delay queue: by trigger, then by the number of the task. -/
structure Key where
  trigger : Instant
  id : Nat
deriving DecidableEq, Repr

namespace Key

instance : LT Key := ⟨fun a b => a.trigger < b.trigger ∨ (a.trigger = b.trigger ∧ a.id < b.id)⟩

instance (a b : Key) : Decidable (a < b) :=
  inferInstanceAs (Decidable (a.trigger < b.trigger ∨ (a.trigger = b.trigger ∧ a.id < b.id)))

theorem lt_def {a b : Key} :
    a < b ↔ a.trigger < b.trigger ∨ (a.trigger = b.trigger ∧ a.id < b.id) := Iff.rfl

end Key

/-- How a call of a body ended. -/
inductive BodyResult (α : Type) where
  | returned (value : α)
  /-- There was no body left to call. -/
  | spent
  | panicked (failure : Failure)
deriving DecidableEq, Repr

/-- The end of a body that returned or panicked. -/
def BodyResult.ofExcept {α : Type} : Except Failure α → BodyResult α
  | .ok value => .returned value
  | .error failure => .panicked failure

/-- What a worker has to do with a record after running it. -/
inductive AfterRun where
  | finished
  | reschedule
deriving DecidableEq, Repr

/-- The answer to an attempt to cancel. -/
structure Cancellation where
  accepted : Bool
  /-- The key to take out of the delay queue, if the record was still pending. -/
  queuedKey : Option Key
deriving DecidableEq, Repr

/-- One unit of work with its schedule, its state and its outcome. -/
structure Record (α : Type) where
  id : Nat
  recurrence : Recurrence
  trigger : Instant
  state : RecordState := .pending
  outcome : Option (Except TaskError α) := none
  /-- The flag that a body polls to stop early. -/
  interruptRequested : Bool := false
  failedHandoffs : UInt32 := 0
  /-- A body that runs once has been called. -/
  bodySpent : Bool := false

namespace Record

variable {α : Type}

def repeats (r : Record α) : Bool := r.recurrence.repeats

def isFinal (r : Record α) : Bool := r.state.isFinal

/-- The place of the record in the order of the delay queue. -/
def key (r : Record α) : Key := ⟨r.trigger, r.id⟩

/-- Moves the record to a terminal state with its outcome. -/
def finish (r : Record α) (state : RecordState) (outcome : Except TaskError α) : Record α :=
  { r with state, outcome := some outcome }

/-- A caller cancels the record. One that runs is cancelled only if it may be interrupted or would
run again; the current run goes on to its end. -/
def cancel (r : Record α) (mayInterrupt : Bool) : Record α × Cancellation :=
  match r.state with
  | .pending => (r.finish .cancelled (.error .cancelled), ⟨true, some r.key⟩)
  | .running =>
    if mayInterrupt || r.repeats then
      ({ r with interruptRequested := r.interruptRequested || mayInterrupt }.finish
        .cancelled (.error .cancelled), ⟨true, none⟩)
    else (r, ⟨false, none⟩)
  | _ => (r, ⟨false, none⟩)

/-- A worker starts to run the record; `none` if it is not pending. -/
def beginRun (r : Record α) : Option (Record α) :=
  match r.state with
  | .pending => some { r with state := .running }
  | _ => none

/-- Calls the body. The answer is false if there is none left. -/
def enterBody (r : Record α) : Record α × Bool :=
  if r.repeats then (r, true) else ({ r with bodySpent := true }, !r.bodySpent)

/-- The body has ended. A record that was cancelled meanwhile keeps its outcome. -/
def complete (r : Record α) (last now : Instant) (result : BodyResult α) :
    Record α × AfterRun × Option FinishKind :=
  match r.state with
  | .running =>
    match result with
    | .returned value =>
      if r.repeats then
        ({ r with trigger := r.recurrence.nextRun last r.trigger now, state := .pending },
          .reschedule, none)
      else (r.finish .done (.ok value), .finished, some .done)
    | .spent =>
      (r.finish .failed (.error (.rejected "task body already consumed")), .finished, some .failed)
    | .panicked failure =>
      (r.finish .failed (.error (.failed failure)), .finished, some .failed)
  | _ => (r, .finished, none)

/-- The service drains and gives the record up. The answer is false if it was not pending. -/
def giveUp (r : Record α) : Record α × Bool :=
  match r.state with
  | .pending => (r.finish .cancelled (.error .cancelled), true)
  | _ => (r, false)

/-- The record cannot reach the pool. The answer is false if it was not pending. -/
def reject (r : Record α) (reason : String) : Record α × Bool :=
  match r.state with
  | .pending => (r.finish .failed (.error (.rejected reason)), true)
  | _ => (r, false)

/-- Moves the trigger of a pending record. -/
def postpone (r : Record α) (trigger : Instant) : Record α :=
  match r.state with
  | .pending => { r with trigger }
  | _ => r

/-- A hand-off of the record to the pool has failed once more. -/
def noteHandoffFailure (r : Record α) : Record α :=
  { r with failedHandoffs := r.failedHandoffs + 1 }

/-- Takes the outcome, which can be had once. -/
def collectOutcome (r : Record α) : Record α × Option (Except TaskError α) :=
  ({ r with outcome := none }, r.outcome)

/-- The record on one line, given the words for the time until its trigger. -/
def describeWith (r : Record α) (dueIn : String) : String :=
  "task#" ++ Text.Numeral.ofNat r.id ++ " state=" ++ r.state.constantName ++
    " repeat=" ++ r.recurrence.debugText ++ " due_in=" ++ dueIn ++
    " transfer_failures=" ++ Text.Numeral.ofNat r.failedHandoffs.toNat

/-- The words for a time until a trigger, which tell only whether it has come. -/
def dueInWords (trigger now : Instant) : String :=
  if elapsedSince trigger now = 0 then "0ns" else "future"

/-- The record on one line. -/
def describe (r : Record α) (now : Instant) : String :=
  r.describeWith (dueInWords r.trigger now)

end Record

end TaskScheduler
