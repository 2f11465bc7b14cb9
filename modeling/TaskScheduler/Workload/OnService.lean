import TaskScheduler.Workload.OnDispatcher

/-
  Workloads on a whole service, with its owner and a client.
-/
namespace TaskScheduler.Workload

/-- A step of a workload on a service. -/
inductive ServiceStep where
  | submit (label : Label) (body : Script)
  | schedule (label : Label) (delay : Duration) (body : Script)
  | scheduleSeries (label : Label) (initial : Duration) (recurrence : Recurrence)
      (runs : List Script)
  /-- Submits several bodies at once; the log names them by the label and their places. -/
  | submitAll (label : Label) (bodies : List Script)
  -- on a task
  | cancel (label : Label) (mayInterrupt : Bool)
  | info (label : Label)
  | getWithin (label : Label) (timeout : Duration)
  | waitWithin (label : Label) (timeout : Duration)
  | wait (label : Label)
  | get (label : Label)
  | dropHandle (label : Label)
  | release (gate : String)
  -- of a client
  | forbidden (operation : OwnerOperation)
  | shutdownBegun
  | hasEnded
  | awaitEnd (timeout : Duration)
  | name
  | clientDebug
  | stats
  | sizes
  | view
  -- of the owner
  | dropOwner
  | dispose
  | disposeWithin (timeout : Duration)
  | setCore (size : Nat)
  | prestart (count : Nat)
  | factory (factory : WorkerFactory)
  | pending
  | ownerDebug
  | ownerName
  | ownerStats
  -- of the workload
  | awaitPumpExit
  | threads
  | log

namespace World

def callOver : Call Json → Bool
  | .submission (.accepted _) | .submission (.failed ..) | .submission (.aborted ..) => true
  | .withdrawal (.answered ..) => true
  | .retrieval (.answered ..) => true
  | .disposal .finished | .disposal (.aborted _) => true
  | .batch (.finished _) | .batch (.failed _) | .batch (.aborted _) => true
  | _ => false

def isOver (w : World) (index : Nat) : Bool := (w.sys.calls[index]?).all callOver

/-- Carries a call on to its end, and lets happen what it waits for, until an instant if there is
one. -/
def finishCall (fuel : Nat) (w : World) (index : Nat) (limit : Option Instant) : World :=
  match fuel with
  | 0 => w
  | fuel + 1 =>
    let w := (driveCall (callFuel w.bookings.length) w index []).1
    if w.isOver index then w
    else
      match w.move with
      | some w => finishCall fuel w index limit
      | none =>
        match w.passTime limit with
        | some w => finishCall fuel w index limit
        | none => w

/-- Takes the outcome of a record, and waits for it for ever or for a time. -/
def fetch (w : World) (r : Ref) (timeout : Option Duration) : World × Json :=
  let (w, index) := w.beginCall (.fetch r timeout) []
  let w := w.finishCall moveFuel index (timeout.map fun t => w.now + t.nanos)
  match w.sys.calls[index]? with
  | some (.retrieval (.answered _ outcome)) => (w, outcomeJson outcome)
  | _ => (w, .null)

/-- Submits several bodies at once and waits for all of them. -/
def submitAll (w : World) (label : Label) (bodies : List Script) : World × Json :=
  let toBook := bodies.zipIdx.map fun (body, i) => (label ++ Text.Numeral.ofNat i, [body])
  let (w, index) := w.beginCall (.submitAll bodies.length) toBook
  let w := w.finishCall moveFuel index none
  match w.sys.calls[index]? with
  | some (.batch (.finished outcomes)) => (w, .array (outcomes.map outcomeJson))
  | some (.batch (.failed e)) => (w, e.toJson)
  | some (.batch (.aborted f)) => (w, panicJson f)
  | _ => (w, .null)

/-- Disposes of the service, and goes on with that unless the disposal panics. -/
def disposeThen (w : World) (next : World → World × Json) : World × Json :=
  let (w, index) := w.beginCall .dispose []
  match w.sys.calls[index]? with
  | some (.disposal (.aborted f)) => (w, panicJson f)
  | _ => next w

def taskJson (w : World) (r : Ref) : Json :=
  match w.sys.record? r with
  | some record =>
    .object [
      ("id", .nat record.id), ("state", .string record.state.tag),
      ("is_done", .bool record.isFinal),
      ("is_cancelled", .bool (record.state == .cancelled)),
      ("is_periodic", .bool record.repeats),
      ("delay_s", wholeSeconds (record.delay w.now)),
      ("debug", .string record.debugText)]
  | none => .null

/-- Carries out a step on the task whose handle a label stands for. -/
def onHandle (w : World) (label : Label) (f : Ref → World × Json) : World × Json :=
  match w.ref? label with
  | some r => f r
  | none => (w, noHandle)

def wouldBlock : Json := .string "would_block"

def disposeWithin (w : World) (timeout : Duration) : World × Json :=
  w.disposeThen fun w =>
    let (w, complete) := w.waitForEnd timeout
    if complete then (w, .string "complete")
    else
      let (sys, pending, active) := w.sys.residual timeout
      ({ w with sys },
        .object [("pending_delayed", .nat pending), ("active_workers", .nat active)])

def viewJson (s : Stats) : Json :=
  .object [("core", .nat s.coreSize), ("live", .nat s.live), ("largest", .nat s.largest),
    ("active", .nat s.active), ("completed", .nat s.completed)]

/-- A step of a workload; `owned` tells whether the owner is still there. -/
def serviceStep (w : World) (owned : Bool) : ServiceStep → World × Json
  | .submit label body => w.submit .submit label [body]
  | .schedule label delay body => w.submit (.schedule delay) label [body]
  | .scheduleSeries label initial recurrence runs =>
    w.submit (.scheduleSeries initial recurrence) label runs
  | .submitAll label bodies => w.submitAll label bodies
  | .cancel label mayInterrupt => w.onHandle label fun r =>
    let (w, accepted) := w.cancelByHandle r mayInterrupt
    (w, .bool accepted)
  | .info label => w.onHandle label fun r => (w, w.taskJson r)
  | .getWithin label timeout => w.onHandle label fun r => w.fetch r (some timeout)
  | .waitWithin label timeout => w.onHandle label fun r =>
    let (w, terminal) := w.waitUntil timeout (·.sys.isFinal r)
    (w, .bool terminal)
  | .wait label => w.onHandle label fun r =>
    (w, if w.sys.isFinal r then .null else wouldBlock)
  | .get label => w.onHandle label fun r =>
    if w.sys.isFinal r then (w.dropLabel label).fetch r none else (w, wouldBlock)
  | .dropHandle label => w.onHandle label fun _ => (w.dropLabel label, .null)
  | .release gate => (w.openGate gate, .null)
  | .forbidden operation =>
    let (sys, e) := w.sys.refuse operation
    ({ w with sys }, e.toJson)
  | .shutdownBegun => (w, .bool (!w.sys.lifecycle.acceptsWork))
  | .hasEnded => (w, .bool w.sys.lifecycle.hasEnded)
  | .awaitEnd timeout =>
    let (w, terminated) := w.waitForEnd timeout
    (w, .bool terminated)
  | .name => (w, .string w.sys.name)
  | .clientDebug => (w, .string w.sys.debugText)
  | .stats => (w, w.sys.stats.toJson)
  | .sizes => (w, .array [.nat w.sys.pool.coreSize, .nat w.sys.pool.live])
  | .view => (w, viewJson w.sys.stats)
  | .awaitPumpExit =>
    let (w, exited) := w.waitUntil patience (·.sys.pump.all (· matches .collapsed _))
    (w, .bool exited)
  | .threads => (w, .strings w.sortedThreadNames)
  | .log => (w, .strings w.log)
  | step =>
    if !owned then (w, .string "no owner")
    else
      match step with
      | .dropOwner | .dispose => w.disposeThen (·, .null)
      | .disposeWithin timeout => w.disposeWithin timeout
      | .setCore size =>
        match w.sys.resize size with
        | (sys, .ok answer) => ({ w with sys }, poolAnswerJson (fun _ => okJson) answer)
        | (sys, .error e) => ({ w with sys }, e.toJson)
      | .prestart count => w.prestartWorkers count
      | .factory f => (w.setFactory f, .null)
      | .pending => (w, w.descriptions)
      | .ownerDebug => (w, .string w.sys.ownerDebugText)
      | .ownerName => (w, .string w.sys.name)
      | .ownerStats => (w, w.sys.stats.toJson)
      | _ => (w, .null)

end World

/-- What a workload on a service is told beforehand. -/
structure ServiceWorkload where
  name : String
  config : ServiceConfig
  withLogs : Bool
  withLargest : Bool
  /-- The pool gets a factory that starts every worker before the end. -/
  cleanupFactory : Bool
  steps : List (Timed ServiceStep)

/-- A service whose owner may be gone. -/
structure OwnedWorld where
  world : World
  owned : Bool := true

/-- Carries a step out, and reports on it if everything is left to settle after it. -/
def OwnedWorld.step (o : OwnedWorld) (s : Timed ServiceStep) : OwnedWorld × Json :=
  let (w, report) := World.timedStep (fun w step => w.tick.serviceStep o.owned step)
    (fun w => [("stats", statsJson w.sys.stats true), ("states", w.statesJson)]) o.world s
  let owned := match s.step with
    | .dropOwner => false
    | _ => o.owned
  ({ world := w, owned }, report)

/-- The report of a workload on a service. At its end all gates are opened, the owner is dropped,
and the termination is waited for. -/
def ServiceWorkload.run (load : ServiceWorkload) : Json :=
  let (o, reports) := load.steps.foldl
    (fun (o, reports) s =>
      let (o, report) := o.step s
      (o, report :: reports))
    (({ world := .start load.name load.config } : OwnedWorld), [])
  let w := o.world.tick.openAllGates
  let w := if load.cleanupFactory && o.owned then w.setFactory (.named "cleanup") else w
  let w := if o.owned then (w.disposeThen (·, .null)).1 else w
  let (w, terminated) := w.waitForEnd patience
  let w := w.settle
  let outcomes := w.handles.map fun (l, r) => (l, (w.fetch r (some .zero)).2)
  .object [
    ("steps", .array reports.reverse),
    ("end", .object ([
      ("terminated", .bool terminated),
      ("is_terminated", .bool w.sys.lifecycle.hasEnded),
      ("stats", statsJson w.sys.stats load.withLargest),
      ("outcomes", .object outcomes), ("metrics", metricsJson w.sys)] ++
      (if load.withLogs then [("logs", logsJson w.sys.events)] else [])))]

end TaskScheduler.Workload
