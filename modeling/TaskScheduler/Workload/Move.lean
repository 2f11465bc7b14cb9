import TaskScheduler.Workload.Body

/-
  Moves: what the threads do next as long as no time passes.

  The world carries out one section of the service at a time, always the same one next: the pump's
  if it has one, else that of the first worker that has one. A call is carried on by the thread that
  has begun it.
-/
namespace TaskScheduler.Workload.World

/-! ## Calls -/

/-- The bodies of the records that a call is about to make. -/
abbrev Bookings := List (Label × List Script)

/-- Attends to the records that were made since the last time. -/
def bookNew (w : World) : Bookings → World × Bookings
  | (label, runs) :: rest =>
    if w.bookings.length < w.sys.records.length then
      ({ w with bookings := w.bookings ++ [{ label, runs, base := w.now }] }, rest)
    else (w, (label, runs) :: rest)
  | [] => (w, [])

/-- Carries a call on for as long as it does not have to wait. -/
def driveCall (fuel : Nat) (w : World) (index : Nat) (toBook : Bookings) : World × Bookings :=
  match fuel with
  | 0 => (w, toBook)
  | fuel + 1 =>
    match w.sys.callStep index w.wakeChoice with
    | some sys =>
      let (w, toBook) := { w with sys }.bookNew toBook
      driveCall fuel w index toBook
    | none => (w, toBook)

/-- A bound on the sections of one call: a handful for each of its records. -/
def callFuel (records : Nat) : Nat := 16 + 16 * records

/-- Begins a call and carries it on for as long as it does not have to wait. -/
def beginCall (w : World) (request : Request) (toBook : Bookings) : World × Nat :=
  let index := w.sys.calls.length
  let (w, toBook) := { w with sys := w.sys.begin request }.bookNew toBook
  ((driveCall (callFuel toBook.length) w index toBook).1, index)

/-- How a submission was answered: with the number of the task or with an error. -/
def submissionJson (w : World) : Submission → Json
  | .accepted r => .object [("id", .nat (w.sys.id r))]
  | .failed _ e => e.toJson
  | .aborted _ f => panicJson f
  | _ => .null

/-- Submits a body and lets the label stand for the task if it was accepted. -/
def submit (w : World) (request : Request) (label : Label) (runs : List Script) : World × Json :=
  let (w, index) := w.beginCall request [(label, runs)]
  match w.sys.calls[index]? with
  | some (.submission stage) =>
    let answer := w.submissionJson stage
    match stage with
    | .accepted r => (w.bindLabel label r, answer)
    | _ => (w, answer)
  | _ => (w, .null)

/-- Cancels by the handle of a task. -/
def cancelByHandle (w : World) (r : Ref) (mayInterrupt : Bool) : World × Bool :=
  let (w, index) := w.beginCall (.cancel r mayInterrupt) []
  match w.sys.calls[index]? with
  | some (.withdrawal (.answered _ accepted)) => (w, accepted)
  | _ => (w, false)

/-! ## Threads -/

def noHandle : Json := .string "no handle"

/-- What the innermost body of a thread waits for from now on. -/
def setWaits (w : World) (place : Place) (waits : List Wait) : World :=
  let a := w.actor place
  match a.frames with
  | [] => w
  | frame :: outer => w.setActor place { a with frames := { frame with waits } :: outer }

/-- The innermost body of a thread carries an act out. -/
def act (w : World) (place : Place) (frame : Frame) (a : Act) : World :=
  let own (on : Option Label) : Option Ref :=
    match on with
    | some l => w.ref? l
    | none => some frame.record
  let byHandle (on : Option Label) : Option Ref := w.ref? (on.getD (w.label frame.record))
  match a with
  | .interrupted => w.answerAct place (.bool (w.interrupted place))
  | .state on =>
    match own on with
    | some r => w.answerAct place (w.stateJson r)
    | none => w.answerAct place .null
  | .cancel on mayInterrupt =>
    match own on with
    | some r =>
      let (sys, c) := w.sys.cancelRecord r mayInterrupt
      { w with sys }.answerAct place (.bool c.accepted)
    | none => w.answerAct place .null
  | .cancelByHandle on mayInterrupt =>
    match byHandle on with
    | some r =>
      let (w, accepted) := w.cancelByHandle r mayInterrupt
      w.answerAct place (.bool accepted)
    | none => w.answerAct place noHandle
  | .stateByHandle on =>
    match byHandle on with
    | some r => w.answerAct place (w.stateJson r)
    | none => w.answerAct place noHandle
  | .submit label body =>
    let (w, answer) := w.submit .submit label [body]
    w.answerAct place answer
  | .record on step =>
    match own on with
    | some r =>
      match step with
      | .run => w.runInline place r
      | .wait timeout => w.setWaits place [.watching r (w.now + timeout.nanos)]
      | step =>
        let (w, answer) := w.recordStep r step
        w.answerAct place answer
    | none => w.answerAct place .null

/-- A thread gets past the first thing that its innermost body waits for, unless it has to go on
waiting. -/
def passWait (w : World) (place : Place) (wait : Wait) (rest : List Wait) : Option World :=
  match wait with
  | .gate name polls =>
    if w.allGatesOpen || w.openGates.contains name || (polls && w.interrupted place) then
      some (w.setWaits place rest)
    else none
  | .barrier name parties =>
    some ({ w with arrivals := w.arrivals ++ [name] }.setWaits place
      (.gathering name parties :: rest))
  | .gathering name parties =>
    if parties ≤ w.arrivals.count name then some (w.setWaits place rest) else none
  | .sleep time => some (w.setWaits place (.sleepingUntil (w.now + time.nanos) :: rest))
  | .sleepingUntil wakeAt => if wakeAt ≤ w.now then some (w.setWaits place rest) else none
  | .watching r limit =>
    let final := w.sys.isFinal r
    if final || limit ≤ w.now then some ((w.setWaits place rest).answerAct place (.bool final))
    else none

/-- The next thing that the innermost body of a thread does, if it does not have to wait. -/
def bodyStep (w : World) (place : Place) : Option World :=
  let a := w.actor place
  match a.frames with
  | [] => none
  | frame :: outer =>
    match frame.waits with
    | wait :: rest => w.passWait place wait rest
    | [] =>
      match frame.ending with
      | .panic payload => some (w.leaveBody place frame outer (.error ⟨payload⟩))
      | .acts [] => some (w.leaveBody place frame outer (.ok (.array frame.answers)))
      | .acts (a :: _) => some (w.act place frame a)
      | .threadName => some (w.leaveBody place frame outer (.ok (.string (w.threadName place))))
      | .interrupted =>
        some (w.leaveBody place frame outer (.ok (.bool (w.interrupted place))))
      | .value value => some (w.leaveBody place frame outer (.ok value))

/-- Puts a periodic record where it goes after a run. -/
def requeue (w : World) (i : Nat) (r : Ref) : World :=
  match w.destination with
  | .delayQueue => { w with sys := w.sys.workerRequeue i r }
  | .notebook =>
    { w with sys := w.sys.setWorker i (.ran r), notebook := w.notebook ++ [w.sys.id r] }
  | .nowhere => { w with sys := w.sys.setWorker i (.refused r) }

/-- The next thing that a worker does, if there is one. -/
def workerMove (w : World) (i : Nat) : Option World :=
  let before := w.sys.pool.phase? i
  let after : Option World :=
    match before with
    | some (.running _) => w.bodyStep (.worker i)
    | some (.begun r) =>
      let w := { w with sys := w.sys.workerEnter i r }
      if w.sys.pool.phase? i = some (.running r) then some (w.enterBody (.worker i) r) else some w
    | some (.requeueing r) => some (w.requeue i r)
    | _ => (w.sys.workerStep i).map fun sys => { w with sys }
  after.map (·.notePark before i)

/-- A wait in whole milliseconds, rounded up to tens. -/
def roundedWait (d : Duration) : Nat :=
  let unit := 10 * nanosPerMilli
  (d.nanos + (unit - 1)) / unit * 10

/-- The next thing that the pump does, if there is one. -/
def pumpMove (w : World) : Option World :=
  let w := { w with idleSince := none }
  let go := (w.sys.pumpStep w.wakeChoice).map fun sys => { w with sys }
  match w.sys.pump with
  | some (.holding r _) =>
    match w.booking? r with
    | some b =>
      if b.faults > 0 then
        (w.sys.pumpFault ⟨.owned b.faultText⟩).map fun sys =>
          { w with sys }.updateBooking r fun b => { b with faults := b.faults - 1 }
      else go
    | none => go
  | some (.postponing r backoff) =>
    if w.retriesAtOnce then
      let w := { w with sys := (w.sys.postpone r w.now).setPump (.offering r) }
      some (w.updateBooking r fun b =>
        { b with backoffs := b.backoffs ++ [roundedWait backoff], approximate := true })
    else go
  | _ => go

/-- The first worker from a list that has something to do does it. -/
def firstWorkerMove (w : World) : List Nat → Option World
  | [] => none
  | i :: rest =>
    match w.workerMove i with
    | some w => some w
    | none => w.firstWorkerMove rest

/-- The next thing that happens without any time passing. -/
def move (w : World) : Option World :=
  match w.pumpMove with
  | some w => some w
  | none => w.firstWorkerMove (List.range w.sys.pool.workers.length)

end TaskScheduler.Workload.World
