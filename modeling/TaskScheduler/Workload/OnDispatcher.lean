import TaskScheduler.Workload.OnPool

/-
  Workloads on a dispatcher with its delay queue and its pool, in which failed hand-offs are
  repeated at once.
-/
namespace TaskScheduler.Workload

/-- A step of a workload on a dispatcher. -/
inductive DispatcherStep where
  | schedule (label : Label) (record : NewRecord)
  | handOver (label : Label) (record : NewRecord)
  /-- Puts a periodic record back into the delay queue, as a worker does. -/
  | requeue (label : Label) (record : NewRecord)
  | withdraw (label : Label)
  | cancel (label : Label) (mayInterrupt : Bool)
  | prestart (count : Nat)
  | setCore (size : Nat)
  | factory (factory : WorkerFactory)
  | release (gate : String)
  | startDrain
  | await (timeout : Duration)
  | peek
  | describe
  | threads
  | log
  | onRecord (label : Label) (step : RecordStep)

namespace World

def okJson : Json := .string "ok"

/-- Starts the pump if one is needed, and goes on to an answer. If the thread of the pump cannot
have its name the answer is the panic. -/
def launchPumpIf (w : World) (needed : Bool) (answer : Json) : World × Json :=
  if needed then
    match w.sys.pumpNameFault? with
    | some f => (w, panicJson f)
    | none => ({ w with sys := w.sys.launchPump }, answer)
  else (w, answer)

/-- Puts a record into the delay queue. -/
def scheduleRecord (w : World) (r : Ref) : World × Json :=
  match w.sys.offer r with
  | (sys, some needsPump) => { w with sys }.launchPumpIf needsPump okJson
  | (sys, none) => ({ w with sys }, w.sys.rejection.toJson)

/-- Hands a record to the pool at once. -/
def executeRecord (w : World) (r : Ref) : World × Json :=
  match w.execute r with
  | (w, .ok _) => (w, okJson)
  | (w, .error e) => (w, (w.sys.poolRefusal e).toJson)
  | (w, .unwound f) => (w, panicJson f)

/-- Puts a periodic record back into the delay queue, or gives it up if the queue is closed. -/
def requeueRecord (w : World) (r : Ref) : World × Json :=
  match w.sys.offer r with
  | (sys, some needsPump) => { w with sys }.launchPumpIf needsPump .null
  | (sys, none) => ({ w with sys := (sys.giveUp r).1 }, .null)

/-- Begins the shutdown and the drain; the answer is false if that was done before. -/
def startDrain (w : World) : World × Json :=
  match w.sys.lifecycle.leaveRunning with
  | (lifecycle, true) =>
    let (sys, needsPump) := { w.sys with lifecycle }.closeQueue
    { w with sys }.launchPumpIf needsPump (.bool true)
  | (_, false) => (w, .bool false)

/-- Starts workers on behalf of the owner. -/
def prestartWorkers (w : World) (count : Nat) : World × Json :=
  match w.prestart count with
  | (w, .ok n) => (w, .nat n)
  | (w, .error e) => (w, (w.sys.poolRefusal e).toJson)
  | (w, .unwound f) => (w, panicJson f)

def waitForEnd (w : World) (timeout : Duration) : World × Bool :=
  w.waitUntil timeout (·.sys.lifecycle.hasEnded)

def dispatcherStep (w : World) : DispatcherStep → World × Json
  | .schedule label record =>
    let (w, r) := w.obtain label w.now record
    w.scheduleRecord r
  | .handOver label record =>
    let (w, r) := w.obtain label w.now record
    w.executeRecord r
  | .requeue label record =>
    let (w, r) := w.obtain label w.now record
    w.requeueRecord r
  | .withdraw label => w.onLabel label fun r =>
    let (sys, removed) := w.sys.withdraw r
    ({ w with sys }, .bool removed)
  | .cancel label mayInterrupt => w.onLabel label fun r =>
    let (sys, c) := w.sys.cancelRecord r mayInterrupt
    match c.queuedKey with
    | some k =>
      let (sys, removed) := sys.removeKey k
      ({ w with sys }, .object [("cancelled", .bool c.accepted), ("removed", .bool removed)])
    | none =>
      ({ w with sys }, .object [("cancelled", .bool c.accepted), ("removed", .null)])
  | .prestart count => w.prestartWorkers count
  | .setCore size => w.setCore size
  | .factory f => (w.setFactory f, .null)
  | .release gate => (w.openGate gate, .null)
  | .startDrain => w.startDrain
  | .await timeout =>
    let (w, terminated) := w.waitForEnd timeout
    (w, .bool terminated)
  | .peek => (w, w.peekJson)
  | .describe => (w, w.descriptions)
  | .threads => (w, .strings w.sortedThreadNames)
  | .log => (w, .strings w.log)
  | .onRecord label step => w.onLabel label fun r => w.recordStepOnMain r step

/-- What is reported of a dispatcher at every rest. -/
def dispatcherJson (w : World) : List (String × Json) :=
  [("pool", poolJson w.sys.pool), ("delayed", .nat w.sys.queue.size),
    ("state", .string w.sys.lifecycle.tag)]

/-- What is reported of each task at the end. -/
def tasksJson (w : World) : Json :=
  .object (w.handles.map fun (l, r) =>
    (l, .object [
      ("outcome", (w.recordStep r .take).2),
      ("failures", .nat (((w.sys.record? r).map (·.failedHandoffs.toNat)).getD 0)),
      ("backoffs_ms", .array ((((w.booking? r).map (·.backoffs)).getD []).map .nat))]))

end World

/-- The report of a workload on a dispatcher. At its end all gates are opened, and the dispatcher is
drained. -/
def runDispatcher (name : String) (config : ServiceConfig) (withLogs : Bool)
    (steps : List (Timed DispatcherStep)) : Json :=
  let fresh := World.start name config
  let start : World :=
    { fresh with sys := { fresh.sys with events := [] }, retriesAtOnce := true }
  let (w, reports) := runSteps
    (World.timedStep (fun w s => w.tick.dispatcherStep s) fun w =>
      w.dispatcherJson ++ [("pump_starts", .nat w.sys.pumpStarts), ("states", w.statesJson)])
    start steps
  let w := (w.openAllGates.setFactory (.named "cleanup")).startDrain.1
  let (w, terminated) := w.waitForEnd patience
  let w := w.settle
  .object [
    ("steps", .array reports),
    ("end", .object ([("terminated", .bool terminated)] ++ w.dispatcherJson ++
      [("tasks", w.tasksJson), ("metrics", metricsJson w.sys)] ++
      (if withLogs then [("logs", logsJson w.sys.events)] else [])))]

end TaskScheduler.Workload
