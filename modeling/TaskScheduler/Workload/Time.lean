import TaskScheduler.Workload.Move

/-
  Time: when nothing can move any more, the clock is put forward to the next thing that is waited
  for, or that comes to its end if nothing happens for a while.
-/
namespace TaskScheduler.Workload.World

/-- The instants that bodies of a thread wait for. -/
def wakeTimes (a : Actor) : List Instant :=
  match a.frames with
  | { waits := .sleepingUntil t :: _, .. } :: _ | { waits := .watching _ t :: _, .. } :: _ => [t]
  | _ => []

/-- The instant that the pump waits for with a record in hand, and those that bodies wait for. -/
def pauses (w : World) : List Instant :=
  let pump :=
    match w.sys.pump with
    | some (.pausing _ t) => [t]
    | _ => []
  pump ++ wakeTimes w.main ++ w.workers.flatMap wakeTimes

/-- The instant at which the waiting pump gets the first entry of the delay queue. -/
def nextDue (w : World) : Option Instant :=
  if w.sys.pump == some .waiting then w.sys.queue.entries.head?.map (·.1.trigger) else none

/-- The instants at which a thread goes on that waits for the clock. -/
def alarms (w : World) : List Instant := w.nextDue.toList ++ w.pauses

/-- What comes to its end if nothing happens for a while. -/
inductive Lapse where
  /-- The pump has waited for an empty queue for the idle time. -/
  | pump
  /-- A parked worker that is not needed has waited for the keep-alive time. -/
  | worker (index : Nat)
deriving DecidableEq, Repr

/-- The pump waits for an open queue that is empty. -/
def pumpIsIdle (w : World) : Bool :=
  w.sys.pump == some .waiting && w.sys.queue.entries.isEmpty && !w.sys.queue.closed

/-- Notes since when the pump has been idle. -/
def noteIdle (w : World) : World :=
  { w with idleSince := if w.pumpIsIdle then some (w.idleSince.getD w.now) else none }

/-- The next end of the keep-alive time of a worker that has been parked since an instant, which
may be now. -/
def expiry (w : World) (since : Instant) : Instant :=
  let time := w.keepAlive.nanos
  since + max 1 ((elapsedSince w.now since + (time - 1)) / time) * time

/-- Workers leave once their keep-alive time is over. -/
def hasSurplus (w : World) : Bool :=
  w.sys.pool.coreSize < w.sys.pool.live && w.sys.pool.queue.isEmpty

/-- What comes to its end at which instant if nothing happens until then. -/
def lapses (w : World) : List (Instant × Lapse) :=
  let pump := w.idleSince.toList.map fun (t : Instant) =>
    (t + w.sys.config.idleTimeout.nanos, Lapse.pump)
  let parked := if w.hasSurplus then w.sys.pool.parked else []
  pump ++ (w.parkings.filter (parked.contains ·.1)).map fun (i, t) => (w.expiry t, Lapse.worker i)

/-- The first of the lapses. -/
def nextLapse (w : World) : Option (Instant × Lapse) :=
  w.lapses.foldl
    (fun first l =>
      match first with
      | none => some l
      | some f => if l.1 < f.1 then some l else some f)
    none

/-- Something comes to its end. -/
def lapse (w : World) (t : Instant) (l : Lapse) : World :=
  let w := w.advanceTo t
  match l with
  | .pump => { w with sys := w.sys.pumpIdle.getD w.sys, idleSince := none }
  | .worker i => { w with sys := (w.sys.workerExpires i).getD w.sys }

/-- Lets time pass until something goes on or comes to its end, or until an instant; `none` if that
has come. -/
def passTime (w : World) (limit : Option Instant) : Option World :=
  let w := w.noteIdle
  let last := (w.alarms.filter (w.now < ·) ++ limit.toList).min?
  match w.nextLapse, last with
  | some (t, l), none => some (w.lapse t l)
  | some (t, l), some last =>
    if t ≤ last then some (w.lapse t l)
    else if w.now < last then some (w.advanceTo last) else none
  | none, some last => if w.now < last then some (w.advanceTo last) else none
  | none, none => none

/-- A bound on the moves between two steps of a workload. -/
def moveFuel : Nat := 100000

/-- Lets time pass while no thread moves. -/
def passTo (fuel : Nat) (w : World) (limit : Instant) : World :=
  match fuel with
  | 0 => w
  | fuel + 1 =>
    match w.passTime (some limit) with
    | some w => if w.now < limit then passTo fuel w limit else w
    | none => w

/-- The little time that passes between two steps. -/
def tick (w : World) : World := w.passTo moveFuel (w.now + 100 * nanosPerMicro)

/-- Lets things happen until a condition holds or the time is over; the answer tells which. -/
def waitFor (fuel : Nat) (w : World) (limit : Instant) (condition : World → Bool) : World × Bool :=
  if condition w then (w, true)
  else
    match fuel with
    | 0 => (w, false)
    | fuel + 1 =>
      match w.move with
      | some w => waitFor fuel w limit condition
      | none =>
        match w.passTime (some limit) with
        | some w => waitFor fuel w limit condition
        | none => (w, false)

/-- Waits for a condition for a time. -/
def waitUntil (w : World) (timeout : Duration) (condition : World → Bool) : World × Bool :=
  w.waitFor moveFuel (w.now + timeout.nanos) condition

/-- How far ahead an entry of the delay queue is worth waiting for. -/
def horizon : Int := 5 * nanosPerSecond

/-- What a rest is put off for: bodies and pauses that end, entries of the delay queue that are soon
due, and workers that leave soon. -/
def unrest (w : World) : Option Instant :=
  let due := w.nextDue.filter (· ≤ w.now + horizon)
  let leaving := w.lapses.filterMap fun (t, l) =>
    if l != .pump && w.keepAlive.nanos < nanosPerSecond then some t else none
  (due.toList ++ w.pauses ++ leaving).min?

/-- Lets everything happen until nothing moves any more, except for what is due much later. -/
def settleFor (fuel : Nat) (w : World) : World :=
  match fuel with
  | 0 => w
  | fuel + 1 =>
    match w.move with
    | some w => settleFor fuel w
    | none =>
      match w.unrest with
      | some t => settleFor fuel ((w.passTime (some t)).getD w)
      | none => w

/-- Lets everything settle, and makes sure that it has. -/
def settle (w : World) : World :=
  let w := w.settleFor moveFuel
  (w.waitUntil (.ofMillis 1) fun _ => false).1

/-- The main thread runs a record by itself, while everything else goes on. -/
def runOnMain (w : World) (r : Ref) : World × Json :=
  let rec go (fuel : Nat) (w : World) : World :=
    match fuel with
    | 0 => w
    | fuel + 1 =>
      if w.main.frames.isEmpty then w
      else
        match w.bodyStep .main with
        | some w => go fuel w
        | none =>
          match w.move with
          | some w => go fuel w
          | none =>
            match w.passTime none with
            | some w => go fuel w
            | none => w
  let w := go moveFuel (w.runInline .main r)
  (w, w.main.answer)

/-- A step of a record that the workload carries out on the main thread. -/
def recordStepOnMain (w : World) (r : Ref) : RecordStep → World × Json
  | .run => w.runOnMain r
  | .wait timeout =>
    let (w, terminal) := w.waitUntil timeout (·.sys.isFinal r)
    (w, .bool terminal)
  | step => w.recordStep r step

end TaskScheduler.Workload.World
