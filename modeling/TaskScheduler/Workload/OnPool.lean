import TaskScheduler.Pool.Await
import TaskScheduler.Workload.Records

/-
  Workloads on a worker pool by itself.
-/
namespace TaskScheduler.Workload

/-- A step, and whether everything is left to settle before the next one. -/
structure Timed (σ : Type) where
  step : σ
  settles : Bool := true

/-- A step of a workload on a pool. -/
inductive PoolStep where
  /-- Puts the record of a label, which is made if the label is new, into the run queue. -/
  | execute (label : Label) (record : NewRecord)
  | withdraw (label : Label)
  | cancel (label : Label) (mayInterrupt : Bool)
  | prestart (count : Nat)
  | setCore (size : Nat)
  | factory (factory : WorkerFactory)
  | release (gate : String)
  | shutdown
  | await (timeout : Duration)
  /-- The numbers of the periodic records that went back after a run. -/
  | requeued
  | threads
  | log
  | onRecord (label : Label) (step : RecordStep)

namespace World

/-- Puts a record into the run queue. -/
def execute (w : World) (r : Ref) : World × Pool.Answer Unit :=
  let (sys, answer) := w.sys.execute r w.wakeChoice
  ({ w with sys }, answer)

def prestart (w : World) (count : Nat) : World × Pool.Answer Nat :=
  let (sys, answer) := w.sys.prestart count
  ({ w with sys }, answer)

def setCore (w : World) (size : Nat) : World × Json :=
  let (sys, answer) := w.sys.setCoreSize size
  ({ w with sys }, poolAnswerJson .nat answer)

def setFactory (w : World) (f : WorkerFactory) : World := { w with sys := w.sys.setFactory f }

/-- Closes the pool. -/
def shutdownPool (w : World) : World × Json :=
  match w.sys.shutdownPool with
  | (sys, none) => ({ w with sys }, .null)
  | (sys, some f) => ({ w with sys }, panicJson f)

/-- Waits for the pool to drain, for a time. -/
def awaitDrained (w : World) (timeout : Duration) : World × Bool :=
  match Await.look w.sys.pool true with
  | .answered drained => (w, drained)
  | call =>
    let (w, woken) := w.waitUntil timeout fun w =>
      call.resume w.sys.pool false == some (.answered true)
    (w, call.resume w.sys.pool (!woken) == some (.answered true))

def poolStep (w : World) : PoolStep → World × Json
  | .execute label record =>
    let (w, r) := w.obtain label 0 record
    let (w, answer) := w.execute r
    (w, poolAnswerJson (fun _ => .string "ok") answer)
  | .withdraw label => w.onLabel label fun r =>
    let (sys, removed) := w.sys.withdraw r
    ({ w with sys }, .bool removed)
  | .cancel label mayInterrupt => w.onLabel label fun r =>
    let (sys, c) := w.sys.cancelRecord r mayInterrupt
    ({ w with sys }, .bool c.accepted)
  | .prestart count =>
    let (w, answer) := w.prestart count
    (w, poolAnswerJson .nat answer)
  | .setCore size => w.setCore size
  | .factory f => (w.setFactory f, .null)
  | .release gate => (w.openGate gate, .null)
  | .shutdown => w.shutdownPool
  | .await timeout =>
    let (w, drained) := w.awaitDrained timeout
    (w, .bool drained)
  | .requeued =>
    (w, if w.destination = .notebook then .array (w.notebook.map .nat) else .null)
  | .threads => (w, .strings w.sortedThreadNames)
  | .log => (w, .strings w.log)
  | .onRecord label step => w.onLabel label fun r => w.recordStepOnMain r step

/-- Carries a step out, and reports on it if everything is left to settle after it. -/
def timedStep {σ : Type} (step : World → σ → World × Json) (more : World → List (String × Json))
    (w : World) (s : Timed σ) : World × Json :=
  let (w, r) := step w s.step
  if s.settles then
    let w := w.settle
    (w, .object (("r", r) :: more w))
  else (w, .object [("r", r)])

/-- The outcomes of all records that labels stand for, taken from them. -/
def collectOutcomes (w : World) : Json :=
  .object (w.handles.map fun (l, r) => (l, (w.recordStep r .take).2))

end World

/-- How long the end of a workload is waited for. -/
def patience : Duration := .ofSeconds 10

/-- The report of a workload on a pool. At its end all gates are opened, and the pool is closed and
left to drain. -/
def runPool (config : PoolConfig) (withTarget : Bool) (steps : List (Timed PoolStep)) : Json :=
  let start : World :=
    { World.start "" { pool := config, dispatcher := .standard } with
      destination := if withTarget then .notebook else .nowhere }
  let (w, reports) := runSteps
    (World.timedStep (fun w s => w.tick.poolStep s) fun w =>
      [("pool", poolJson w.sys.pool), ("states", w.statesJson)])
    start steps
  let w := (w.openAllGates.setFactory (.named "cleanup")).shutdownPool.1
  let (w, terminated) := w.awaitDrained patience
  let w := w.settle
  .object [
    ("steps", .array reports),
    ("end", .object [("terminated", .bool terminated), ("pool", poolJson w.sys.pool),
      ("outcomes", w.collectOutcomes), ("metrics", metricsJson w.sys)])]

end TaskScheduler.Workload
