import TaskScheduler.Pool
import TaskScheduler.Record
import TaskScheduler.Lifecycle

/-
  The whole service as one state: records, delay queue, worker pool, pump, lifecycle, and the calls
  that clients are in the middle of.

  Everything that happens is a sequence of sections, each of which is carried out at once under one
  lock. This module holds the state and the sections that concern records, the delay queue and the
  pool; what the pump, the workers and the callers do with them is in the modules below it.
-/
namespace TaskScheduler

/-- What the pump, the one thread that moves due records from the delay queue to the pool, is
doing. -/
inductive PumpPhase where
  /-- Waits for the delay queue. -/
  | waiting
  /-- Has taken a record out of the delay queue. -/
  | holding (record : Ref) (early : Bool)
  /-- Has seen that the record is pending. -/
  | checked (record : Ref) (early : Bool)
  /-- Gives the record up because the service drains. -/
  | cancelling (record : Ref)
  /-- Waits for the trigger of a record whose hand-off has failed before. -/
  | pausing (record : Ref) (wakeAt : Instant)
  /-- Is about to hand the record to the pool. -/
  | handing (record : Ref)
  /-- The hand-off has panicked. -/
  | faulted (record : Ref) (failure : Failure)
  /-- The record is no longer in the run queue after a panic. -/
  | withdrawn (record : Ref) (failure : Failure)
  /-- The hand-off has failed. -/
  | failed (record : Ref) (reason : String)
  /-- The hand-off has failed for the last time. -/
  | rejecting (record : Ref) (reason : String)
  /-- The hand-off is to be repeated after a while. -/
  | postponing (record : Ref) (backoff : Duration)
  /-- Puts the record back into the delay queue. -/
  | offering (record : Ref)
  /-- The delay queue is drained, and the pool has to be closed. -/
  | stopping
  /-- Waits for the pool to drain. -/
  | awaiting
  /-- The pool is drained. -/
  | marking
  /-- A panic has ended it. -/
  | collapsed (failure : Failure)
deriving DecidableEq, Repr

/-- The record that the pump has in hand. -/
def PumpPhase.record? : PumpPhase → Option Ref
  | holding r _ | checked r _ | cancelling r | pausing r _ | handing r | faulted r _
  | withdrawn r _ | failed r _ | rejecting r _ | postponing r _ | offering r => some r
  | _ => none

/-- The pump before it has seen the delay queue idle or closed for good. -/
def PumpPhase.isConsumer : PumpPhase → Bool
  | stopping | awaiting | marking | collapsed _ => false
  | _ => true

/-- How a submission stands that has been begun. -/
inductive Submission where
  /-- Has not yet asked whether the service accepts work. -/
  | arriving
  /-- Hands an immediate record to the pool. -/
  | executing (record : Ref)
  /-- Has made a record for later, and has not yet asked whether the service accepts work. -/
  | checking (record : Ref) (kind : SubmissionKind)
  /-- Puts the record into the delay queue. -/
  | offering (record : Ref) (kind : SubmissionKind)
  /-- Has to start the pump for the record, which is in the delay queue under a key. -/
  | startingPump (record : Ref) (kind : SubmissionKind) (key : Key)
  /-- No pump could be started, so the record has to leave the delay queue. -/
  | retracting (record : Ref) (key : Key) (reason : String)
  /-- The record is in; the submission has to be counted. -/
  | counting (record : Ref) (kind : SubmissionKind)
  /-- The service takes no work; the caller is to be told its state. -/
  | explaining (record : Option Ref)
  | accepted (record : Ref)
  | failed (record : Option Ref) (error : ServiceError)
  /-- A panic went through the call. -/
  | aborted (record : Ref) (failure : Failure)
deriving DecidableEq, Repr

/-- How a cancellation by a handle stands. -/
inductive Withdrawal where
  | asking (record : Ref) (mayInterrupt : Bool)
  /-- The record is cancelled; its entry has to leave the delay queue. -/
  | removing (record : Ref) (key : Key)
  /-- The cancellation has to be counted. -/
  | counting (record : Ref)
  | answered (record : Ref) (accepted : Bool)
deriving DecidableEq, Repr

/-- How the retrieval of an outcome by a handle stands. -/
inductive Retrieval (α : Type) where
  /-- Waits until the record is terminal, for ever or until an instant that ends a timeout. -/
  | waiting (record : Ref) (limit : Option (Instant × Duration))
  | taking (record : Ref)
  | answered (record : Ref) (outcome : Except TaskError α)

/-- How the disposal of the service stands. -/
inductive Disposal where
  | asking
  | closing
  | startingPump
  /-- No pump could be started, so the caller does its work. -/
  | draining
  | finished
  /-- A panic went through the call. -/
  | aborted (failure : Failure)
deriving DecidableEq, Repr

/-- How a submission of several bodies at once stands. -/
inductive Batch (α : Type) where
  /-- Submits one body after the other. -/
  | submitting (accepted : List Ref) (current : Submission) (left : Nat)
  /-- A submission was refused; those before it are cancelled one after the other. -/
  | cancelling (error : ServiceError) (current : Withdrawal) (left : List Ref)
  /-- All are in; their outcomes are waited for one after the other. -/
  | collecting (outcomes : List (Except TaskError α)) (left : List Ref)
  | finished (outcomes : List (Except TaskError α))
  | failed (error : ServiceError)
  /-- A panic went through the call. -/
  | aborted (failure : Failure)

/-- A call that a client or the owner has begun. -/
inductive Call (α : Type) where
  | submission (stage : Submission)
  | withdrawal (stage : Withdrawal)
  | retrieval (stage : Retrieval α)
  | disposal (stage : Disposal)
  | batch (stage : Batch α)

/-- The whole service. -/
structure System (α : Type) where
  name : String
  config : DispatcherConfig
  /-- The last instant that the clock can show. -/
  clockEnd : Instant
  now : Instant
  records : List (Record α) := []
  queue : DelayQueue := {}
  pool : Pool
  pump : Option PumpPhase := none
  pumpStarts : Nat := 0
  lifecycle : Lifecycle := .running
  nextId : Nat := 0
  calls : List (Call α) := []
  /-- The records whose submission was accepted. -/
  accepted : List Ref := []
  /-- The accepted records that clients have handles of. -/
  handles : List Ref := []
  metrics : Metrics := {}
  events : List Event := []

namespace System

variable {α : Type}

/-- A service at its start. -/
def initial (host : Host) (name : String) (config : ServiceConfig) (clockEnd now : Instant) :
    System α where
  name := name
  config := config.dispatcher
  clockEnd := clockEnd
  now := now
  pool := .ofConfig host config.pool
  events := [.started name config.pool.coreSize]

def report (s : System α) (events : List Event) : System α :=
  { s with events := s.events ++ events }

/-- The error of a call that comes too late. -/
def rejection (s : System α) : ServiceError := .rejected s.name s.lifecycle

/-! ## Records -/

def record? (s : System α) (r : Ref) : Option (Record α) := s.records[r]?

def update (s : System α) (r : Ref) (f : Record α → Record α) : System α :=
  { s with records := s.records.modify r f }

def state? (s : System α) (r : Ref) : Option RecordState := (s.record? r).map (·.state)

def isPending (s : System α) (r : Ref) : Bool := s.state? r == some .pending

def isFinal (s : System α) (r : Ref) : Bool := (s.state? r).any (·.isFinal)

def repeats (s : System α) (r : Ref) : Bool := (s.record? r).any (·.repeats)

/-- The place of a record in the order of the delay queue. -/
def key (s : System α) (r : Ref) : Key := ((s.record? r).map (·.key)).getD ⟨0, r⟩

/-- The number by which a record is known to its users. -/
def id (s : System α) (r : Ref) : Nat := ((s.record? r).map (·.id)).getD 0

/-- Adds a record, which is the next one. -/
def add (s : System α) (record : Record α) : System α × Ref :=
  ({ s with records := s.records ++ [record] }, s.records.length)

/-- Makes a record under the next number. -/
def create (s : System α) (recurrence : Recurrence) (trigger : Instant) : System α × Ref :=
  { s with nextId := s.nextId + 1 }.add { id := s.nextId, recurrence, trigger }

/-- A caller cancels a record. -/
def cancelRecord (s : System α) (r : Ref) (mayInterrupt : Bool) : System α × Cancellation :=
  match s.record? r with
  | some record =>
    let (record', answer) := record.cancel mayInterrupt
    (s.update r fun _ => record', answer)
  | none => (s, ⟨false, none⟩)

/-- A record that is pending is about to run; the answer is false for any other. -/
def beginRun (s : System α) (r : Ref) : System α × Bool :=
  match (s.record? r).bind (·.beginRun) with
  | some record' =>
    ({ s.update r fun _ => record' with metrics := s.metrics.sampleLag }, true)
  | none => (s, false)

/-- The body of a record is called. The answer is false if there is none left. -/
def enterBody (s : System α) (r : Ref) : System α × Bool :=
  match s.record? r with
  | some record => (s.update r fun _ => record.enterBody.1, record.enterBody.2)
  | none => (s, false)

/-- The body of a record has ended. -/
def completeRun (s : System α) (r : Ref) (result : BodyResult α) : System α × AfterRun :=
  let sampled := { s with metrics := s.metrics.sampleExecution }
  match s.record? r with
  | some record =>
    let (record', after, finish) := record.complete s.clockEnd s.now result
    let updated := sampled.update r fun _ => record'
    match finish with
    | some kind => ({ updated with metrics := updated.metrics.countFinished kind }, after)
    | none => (updated, after)
  | none => (sampled, .finished)

/-- A pending record is given up because the service drains. -/
def giveUp (s : System α) (r : Ref) : System α × Bool :=
  match s.record? r with
  | some record =>
    let (record', cancelled) := record.giveUp
    if cancelled then
      ({ s.update r fun _ => record' with metrics := s.metrics.countCancelled }, true)
    else (s, false)
  | none => (s, false)

/-- A pending record is given up because it cannot reach the pool. -/
def reject (s : System α) (r : Ref) (reason : String) : System α :=
  match s.record? r with
  | some record =>
    let (record', rejected) := record.reject reason
    if rejected then
      { s.update r fun _ => record' with metrics := s.metrics.countFinished .rejected }
    else s
  | none => s

def postpone (s : System α) (r : Ref) (trigger : Instant) : System α :=
  s.update r (·.postpone trigger)

/-- Notes a failed hand-off and answers how many there have been. -/
def noteHandoffFailure (s : System α) (r : Ref) : System α × UInt32 :=
  let noted := s.update r (·.noteHandoffFailure)
  (noted, ((noted.record? r).map (·.failedHandoffs)).getD 0)

def collectOutcome (s : System α) (r : Ref) : System α × Option (Except TaskError α) :=
  (s.update r (·.collectOutcome.1), (s.record? r).bind (·.collectOutcome.2))

/-! ## Delay queue -/

/-- Offers a record to the delay queue. The answer tells whether a pump has to be started; there is
none if the queue is closed. -/
def offer (s : System α) (r : Ref) : System α × Option Bool :=
  match s.queue.offer (s.isPending r) (s.key r) r with
  | some (queue, needsPump) => ({ s with queue }, some needsPump)
  | none => (s, none)

def putBack (s : System α) (r : Ref) : System α :=
  { s with queue := s.queue.putBack (s.isPending r) (s.key r) r }

def removeKey (s : System α) (k : Key) : System α × Bool :=
  let (queue, removed) := s.queue.remove k
  ({ s with queue }, removed)

/-- Closes the delay queue and answers whether a pump has to be started. -/
def closeQueue (s : System α) : System α × Bool :=
  let (queue, needsPump) := s.queue.close
  ({ s with queue }, needsPump)

/-- Descriptions of the records in the delay queue, the first to be due in front. -/
def pending (s : System α) : List String :=
  s.queue.refs.filterMap fun r => (s.record? r).map (·.describe s.now)

/-- The panic of an attempt to start the pump, if its thread cannot have the name. -/
def pumpNameFault? (s : System α) : Option Failure := nameFault? (s.name ++ "-dispatcher")

/-- Starts the pump, which begins by waiting for the delay queue. -/
def launchPump (s : System α) : System α :=
  { s with pump := some .waiting, pumpStarts := s.pumpStarts + 1 }.report
    [.pumpStarted s.name (s.pumpStarts + 1)]

/-- The operating system refuses the thread of the pump, and the delay queue is told that no
consumer comes. This cannot happen as long as the pump before it has not ended, or where its name is
at fault. -/
def refusePump (s : System α) : Option (System α) :=
  if s.pump.isNone && s.pumpNameFault?.isNone then
    some { s with queue := s.queue.releaseConsumer }
  else none

/-- The error of a call for which no pump could be started. -/
def pumpRefusal (reason : String) : ServiceError := .threadSpawn .dispatcher reason

/-! ## Pool -/

/-- Takes over the pool after a call on it, with what it reported. -/
def apply {β : Type} (s : System α) (e : Pool.Effect β) : System α :=
  { s with pool := e.pool }.report e.events

def execute (s : System α) (r : Ref) (choice : Nat) : System α × Pool.Answer Unit :=
  let e := s.pool.execute r choice
  (s.apply e, e.answer)

def withdraw (s : System α) (r : Ref) : System α × Bool :=
  let (pool, removed) := s.pool.withdraw r
  ({ s with pool }, removed)

def prestart (s : System α) (count : Nat) : System α × Pool.Answer Nat :=
  let e := s.pool.prestart count
  (s.apply e, e.answer)

def setCoreSize (s : System α) (size : Nat) : System α × Pool.Answer Nat :=
  let e := s.pool.setCoreSize size
  (s.apply e, e.answer)

def setFactory (s : System α) (factory : WorkerFactory) : System α :=
  { s with pool := s.pool.setFactory factory }

/-- Rejects a record that a closing pool could start no worker for. -/
def rejectStranded (error : PoolError) (s : System α) (r : Ref) : System α :=
  (s.report [.strandedRejected (s.id r) error]).reject r
    ("backend pool shut down with no worker to run it: " ++ error.text)

/-- Closes the pool; the answer is the panic that went through the call, if one did. -/
def shutdownPool (s : System α) : System α × Option Failure :=
  let e := s.pool.shutdown
  let closed := s.apply e
  match e.answer with
  | .ok (some (error, stranded)) => (stranded.foldl (rejectStranded error) closed, none)
  | .unwound f => (closed, some f)
  | _ => (closed, none)

/-- The error of a call on the service that the pool refused. -/
def poolRefusal (s : System α) : PoolError → ServiceError
  | .shutdown => s.rejection
  | .spawn reason => .threadSpawn .worker reason

end System

end TaskScheduler
