import TaskScheduler.Config
import TaskScheduler.Event
import TaskScheduler.Pool.Factory
import TaskScheduler.Pool.Worker

/-
  The worker pool: a run queue, and workers that are started one by one up to the core size.

  Every function here is one section under the lock of the pool. Idle workers wait to be woken;
  while the pool is above its core size a worker that has waited for the keep-alive time leaves.
  Once the pool is closing, workers empty the run queue and leave.
-/
namespace TaskScheduler

/-- A run queue and the workers that empty it. The worker with index `i` is the `i`-th one. -/
structure Pool where
  queue : List Ref := []
  coreSize : Nat
  live : Nat := 0
  idle : Nat := 0
  active : Nat := 0
  largest : Nat := 0
  nextIndex : Nat := 0
  closing : Bool := false
  completed : Nat := 0
  factory : WorkerFactory
  workers : List Worker := []
  /-- The number of live threads that was last published. -/
  threadsGauge : Option Nat := none
  /-- How often those who wait for the pool to drain have been woken. -/
  drainSignals : Nat := 0

namespace Pool

/-- How a call on the pool ended. -/
inductive Answer (β : Type) where
  | ok (value : β)
  | error (error : PoolError)
  /-- A panic of the factory went through the call. -/
  | unwound (failure : Failure)
deriving DecidableEq, Repr

/-- The pool after a call, what the call answered, and what it reported. -/
structure Effect (β : Type) where
  pool : Pool
  answer : Answer β
  events : List Event := []

/-- The same effect, with events that were reported before. -/
def Effect.after {β : Type} (e : Effect β) (events : List Event) : Effect β :=
  { e with events := events ++ e.events }

/-- An empty pool, of one worker at least, whose workers are threads of a host. -/
def ofConfig (host : Host) (c : PoolConfig) : Pool where
  coreSize := max c.coreSize 1
  factory := .ofHost host c.nameStem c.stackSize

def phase? (p : Pool) (i : Nat) : Option WorkerPhase := p.workers[i]?.map (·.phase)

def setPhase (p : Pool) (i : Nat) (phase : WorkerPhase) : Pool :=
  { p with workers := p.workers.modify i fun w => { w with phase } }

/-- The indexes of the workers that wait to be woken. -/
def parked (p : Pool) : List Nat :=
  (List.range p.workers.length).filter fun i => p.phase? i == some .parked

/-- Wakes one of the parked workers, if there is any; which one is up to `choice`. -/
def notifyOne (p : Pool) (choice : Nat) : Pool :=
  match p.parked[choice % p.parked.length]? with
  | some i => p.setPhase i (.woken false)
  | none => p

/-- Wakes all parked workers. -/
def notifyAll (p : Pool) : Pool :=
  { p with workers := p.workers.map fun w =>
      if w.phase = .parked then { w with phase := .woken false } else w }

/-- Wakes all those who wait for the pool to drain. -/
def notifyDrained (p : Pool) : Pool := { p with drainSignals := p.drainSignals + 1 }

/-- Asks the factory for one more worker. An index is used up only if the worker starts. -/
def startWorker (p : Pool) : Effect Unit :=
  let asked := { p with factory := p.factory.asked }
  match p.factory.next p.nextIndex with
  | .started name =>
    ⟨{ asked with
        nextIndex := p.nextIndex + 1
        live := p.live + 1
        largest := max p.largest (p.live + 1)
        workers := p.workers ++ [{ name }]
        threadsGauge := some (p.live + 1) }, .ok (),
      [.workerStarted p.nextIndex (p.live + 1) p.coreSize]⟩
  | .refused reason => ⟨asked, .error (.spawn reason), []⟩
  | .panicked failure => ⟨asked, .error (.spawn ("thread factory " ++ failure.text)), []⟩
  | .unwound failure => ⟨asked, .unwound failure, []⟩

/-- Puts a record at the end of the run queue and wakes or starts a worker for it. If no worker
can be started and none is there, the record is taken out again. -/
def execute (p : Pool) (r : Ref) (choice : Nat) : Effect Unit :=
  if p.closing then ⟨p, .error .shutdown, []⟩
  else
    let pushed := { p with queue := p.queue ++ [r] }
    if pushed.queue.length ≤ p.idle then ⟨pushed.notifyOne choice, .ok (), []⟩
    else if p.live < p.coreSize then
      match pushed.startWorker with
      | ⟨same, .error e, events⟩ =>
        if p.live = 0 then ⟨{ same with queue := p.queue }, .error e, events⟩
        else ⟨same, .ok (), events ++ [.poolNotGrown e p.live]⟩
      | effect => effect
    else ⟨pushed, .ok (), []⟩

/-- Starts up to `left` more workers, after `started` have been, up to the core size. -/
def prestartFrom (requested : Nat) (p : Pool) (started : Nat) : Nat → Effect Nat
  | 0 => ⟨p, .ok started, []⟩
  | left + 1 =>
    if p.live < p.coreSize then
      match p.startWorker with
      | ⟨grown, .ok _, events⟩ => (prestartFrom requested grown (started + 1) left).after events
      | ⟨same, .error e, events⟩ =>
        if started = 0 then ⟨same, .error e, events⟩
        else ⟨same, .ok started, events ++ [.prestartStopped e requested started]⟩
      | ⟨same, .unwound f, events⟩ => ⟨same, .unwound f, events⟩
    else ⟨p, .ok started, []⟩

/-- Starts up to `count` workers ahead of demand, up to the core size. -/
def prestart (p : Pool) (count : Nat) : Effect Nat :=
  if p.closing then ⟨p, .error .shutdown, []⟩ else prestartFrom count p 0 count

/-- Starts up to `left` workers for records that wait in the run queue, until a start fails. -/
def growForQueue (previous : Nat) (p : Pool) : Nat → Effect Nat
  | 0 => ⟨p, .ok previous, []⟩
  | left + 1 =>
    match p.startWorker with
    | ⟨grown, .ok _, events⟩ => (growForQueue previous grown left).after events
    | ⟨same, .error e, events⟩ =>
      ⟨same, .ok previous, events ++ [.poolNotGrownForQueue e p.live]⟩
    | ⟨same, .unwound f, events⟩ => ⟨same, .unwound f, events⟩

/-- Changes the core size, to one at least, and answers with the previous one. If that leaves room
for more workers they are started for the records that no idle worker is there for. -/
def setCoreSize (p : Pool) (size : Nat) : Effect Nat :=
  let resized := { p with coreSize := max size 1 }
  if p.closing then ⟨resized, .ok p.coreSize, []⟩
  else
    let waiting := p.queue.length - p.idle
    let room := resized.coreSize - p.live
    growForQueue p.coreSize resized (min waiting room)

/-- Takes a record out of the run queue. The answer is false if it is not there. -/
def withdraw (p : Pool) (r : Ref) : Pool × Bool :=
  if p.queue.contains r then ({ p with queue := p.queue.erase r }, true) else (p, false)

def setFactory (p : Pool) (factory : WorkerFactory) : Pool := { p with factory }

/-- Closes the pool. If records wait and no worker is there to run them, one last worker is started.
If that fails the records are taken out, and the answer tells which they are and why. Those who wait
for the pool to drain are woken if no worker is left to do so. -/
def shutdown (p : Pool) : Effect (Option (PoolError × List Ref)) :=
  let closed := { p with closing := true }.notifyAll
  if p.live > 0 then ⟨closed, .ok none, []⟩
  else if p.queue.isEmpty then ⟨closed.notifyDrained, .ok none, []⟩
  else
    match closed.startWorker with
    | ⟨grown, .ok _, events⟩ => ⟨grown, .ok none, events⟩
    | ⟨same, .error e, events⟩ =>
      ⟨{ same with queue := [] }.notifyDrained, .ok (some (e, p.queue)), events⟩
    | ⟨same, .unwound f, events⟩ => ⟨same, .unwound f, events⟩

/-- The pool is closed, its run queue is empty, and all workers have left. -/
def hasDrained (p : Pool) : Bool := p.closing && p.live == 0 && p.queue.isEmpty

/-! ## Workers -/

/-- A worker leaves. The last one wakes those who wait for the pool to drain. -/
def leave (p : Pool) (i : Nat) : Pool :=
  { p with
    live := p.live - 1
    threadsGauge := some (p.live - 1)
    drainSignals :=
      if p.live - 1 = 0 then p.drainSignals + 1 else p.drainSignals }.setPhase i .exited

/-- A worker at the run queue picks the first record up; if there is none it leaves a closing pool
and parks in any other. -/
def seek (p : Pool) (i : Nat) : Pool :=
  match p.queue with
  | r :: rest => { p with queue := rest, active := p.active + 1 }.setPhase i (.picked r)
  | [] => if p.closing then p.leave i else { p with idle := p.idle + 1 }.setPhase i .parked

/-- A worker comes back to the run queue. One that was woken because its time is over leaves if
there is nothing to do and the pool is above its core size. -/
def look (p : Pool) (i : Nat) : Option Pool :=
  match p.phase? i with
  | some .starting => some (p.seek i)
  | some .counted => some ({ p with active := p.active - 1 }.seek i)
  | some (.woken timedOut) =>
    let back := { p with idle := p.idle - 1 }
    if timedOut && p.queue.isEmpty && p.coreSize < p.live then some (back.leave i)
    else some (back.seek i)
  | _ => none

/-- The keep-alive time of a parked worker is over. -/
def expire (p : Pool) (i : Nat) : Option Pool :=
  match p.phase? i with
  | some .parked => some (p.setPhase i (.woken true))
  | _ => none

/-- A worker that is through with a record counts it. -/
def countRun (p : Pool) (i : Nat) : Option Pool :=
  match p.phase? i with
  | some (.ran _) => some ({ p with completed := p.completed + 1 }.setPhase i .counted)
  | _ => none

end Pool

end TaskScheduler
