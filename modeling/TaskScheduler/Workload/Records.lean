import TaskScheduler.Workload.Time

/-
  Workloads on single records and one delay queue, carried out on the main thread.
-/
namespace TaskScheduler.Workload

/-- How a record is to be made. -/
structure NewRecord where
  id : Nat := 0
  /-- The offset of the trigger in nanoseconds. -/
  offset : Int := 0
  recurrence : Recurrence := .once
  runs : List Script := []
  faults : Nat := 0
  faultText : String := ""

/-- A service that no workload has touched, at the origin of a clock that ends far away. -/
def World.start (name : String) (config : ServiceConfig) : World where
  sys := .initial host name config farClockEnd 0
  keepAlive := config.pool.keepAlive

/-- Makes a record whose trigger is counted from an instant, and lets a label stand for it. -/
def World.make (w : World) (label : Label) (base : Instant) (new : NewRecord) : World × Ref :=
  let (sys, r) := w.sys.add
    { id := new.id, recurrence := new.recurrence, trigger := base + new.offset }
  let booking : Booking :=
    { label, runs := new.runs, base, faults := new.faults, faultText := new.faultText }
  ({ w with sys, bookings := w.bookings ++ [booking] }.bindLabel label r, r)

/-- The record of a label, which is made if the label is new. -/
def World.obtain (w : World) (label : Label) (base : Instant) (new : NewRecord) : World × Ref :=
  match w.ref? label with
  | some r => (w, r)
  | none => w.make label base new

/-- Carries out a section of the record that a label stands for. -/
def World.onLabel (w : World) (label : Label) (f : Ref → World × Json) : World × Json :=
  match w.ref? label with
  | some r => f r
  | none => (w, .null)

/-- A step of a workload on records. -/
inductive RecordsStep where
  | new (label : Label) (record : NewRecord)
  | onRecord (label : Label) (step : RecordStep)
  /-- Removes the entry with a key from the delay queue. -/
  | removeAt (offset : Int) (id : Nat)
  | takeFirst
  /-- Offers the record that was last taken. -/
  | offerTaken
  | peek
  | close
  | releaseConsumer
  | describe
  | interrupted
  | log

namespace World

def descriptions (w : World) : Json := .strings w.sys.pending

/-- The time until the first entry of the delay queue is due, in whole seconds. -/
def peekJson (w : World) : Json := .ofOption ((w.sys.queue.untilDue w.now).map wholeSeconds)

/-- Takes from the delay queue what is ready; an empty queue lets the idle time pass. -/
def takeFirst (w : World) : World × Json :=
  match w.sys.queue.take? w.now true with
  | some (.ready r early, queue) =>
    ({ w with sys := { w.sys with queue }, lastTaken := some r },
      .object [("id", .nat (w.sys.id r)), ("early", .bool early), ("state", w.stateJson r)])
  | some (.idle, queue) => ({ w with sys := { w.sys with queue } }, .string "idle")
  | some (.closed, queue) => ({ w with sys := { w.sys with queue } }, .string "closed")
  | none => (w, .string "would_block")

def recordsStep (w : World) : RecordsStep → World × Json
  | .new label record =>
    let (w, r) := w.make label 0 record
    (w, w.infoJson r)
  | .onRecord label step => w.onLabel label fun r => w.recordStepOnMain r step
  | .removeAt offset id =>
    let (sys, removed) := w.sys.removeKey ⟨offset, id⟩
    ({ w with sys }, .bool removed)
  | .takeFirst => w.takeFirst
  | .offerTaken =>
    match w.lastTaken with
    | some r => { w with lastTaken := none }.recordStep r .offer
    | none => (w, .null)
  | .peek => (w, w.peekJson)
  | .close =>
    let (sys, needsPump) := w.sys.closeQueue
    ({ w with sys }, .object [("needs_consumer", .bool needsPump)])
  | .releaseConsumer =>
    ({ w with sys := { w.sys with queue := w.sys.queue.releaseConsumer } }, .null)
  | .describe => (w, w.descriptions)
  | .interrupted => (w, .bool (w.interrupted .main))
  | .log => (w, .strings w.log)

end World

/-- Carries out steps in turn and collects their reports. -/
def runSteps {σ : Type} (step : World → σ → World × Json) (w : World) (steps : List σ) :
    World × List Json :=
  let (w, reports) := steps.foldl
    (fun (w, reports) s =>
      let (w, report) := step w s
      (w, report :: reports))
    (w, [])
  (w, reports.reverse)

/-- The report of a workload on records. -/
def runRecords (steps : List RecordsStep) : Json :=
  let report (w : World) (s : RecordsStep) : World × Json :=
    let (w, r) := w.tick.recordsStep s
    (w, .object [("r", r), ("len", .nat w.sys.queue.size),
      ("empty", .bool w.sys.queue.entries.isEmpty), ("closed", .bool w.sys.queue.closed),
      ("states", w.statesJson)])
  let (w, reports) := runSteps report (.start "" (.ofProcessors 1)) steps
  .object [("steps", .array reports), ("metrics", metricsJson w.sys)]

end TaskScheduler.Workload
