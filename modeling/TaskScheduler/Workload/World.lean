import TaskScheduler.System.Step
import TaskScheduler.Thread
import TaskScheduler.Json.Printer
import TaskScheduler.Workload.Machine
import TaskScheduler.Workload.Script
import TaskScheduler.Workload.Report

/-
  A service together with the bodies that its workers are inside of, in virtual time, and what a
  workload shows of its records.
-/
namespace TaskScheduler.Workload

/-- What a workload knows about a record besides the record itself. -/
structure Booking where
  label : Label
  /-- What the body does at each run; the last one is repeated. -/
  runs : List Script
  started : Nat := 0
  /-- The instant from which the trigger is counted when it is shown. -/
  base : Instant
  /-- The trigger depends on when something happened, and is shown in seconds. -/
  approximate : Bool := false
  /-- How many hand-offs are still to panic, and with which words. -/
  faults : Nat := 0
  faultText : String := ""
  /-- The waits in milliseconds that were chosen after failed hand-offs. -/
  backoffs : List Nat := []

/-- A body that a thread is inside of. -/
structure Frame where
  record : Ref
  waits : List Wait
  ending : Ending
  /-- The answers of the acts that are done. -/
  answers : List Json := []

/-- A thread with the bodies that it is inside of, the innermost first. -/
structure Actor where
  thread : Thread := {}
  frames : List Frame := []
  /-- How the last record that the thread ran by itself ended. -/
  answer : Json := .null

/-- Where a periodic record goes after a run. -/
inductive Destination where
  | delayQueue
  /-- Its number is written down, and that is all. -/
  | notebook
  | nowhere
deriving DecidableEq, Repr

/-- Which thread acts. -/
inductive Place where
  | main
  | worker (index : Nat)
deriving DecidableEq, Repr

/-- A service, its threads, and what the workload waits for and writes down. -/
structure World where
  sys : System Json
  bookings : List Booking := []
  main : Actor := {}
  workers : List Actor := []
  openGates : List String := []
  allGatesOpen : Bool := false
  /-- The barriers that bodies have come to, one entry for each. -/
  arrivals : List String := []
  log : List String := []
  /-- The names of the threads on which bodies were started. -/
  threadNames : List String := []
  handles : List (Label × Ref) := []
  destination : Destination := .delayQueue
  notebook : List Nat := []
  /-- A failed hand-off is repeated at once, and the wait is only written down. -/
  retriesAtOnce : Bool := false
  keepAlive : Duration
  /-- The workers in the order in which they last parked, with the instants at which they did. -/
  parkings : List (Nat × Instant) := []
  /-- The instant since which the pump has waited for an empty queue. -/
  idleSince : Option Instant := none
  /-- The record that was last taken out of the delay queue and not offered again. -/
  lastTaken : Option Ref := none

/-- The end of a clock that starts at zero and shows as many seconds as a signed 64-bit number
holds. -/
def farClockEnd : Instant := wordBound / 2 * nanosPerSecond - 1

namespace World

def now (w : World) : Instant := w.sys.now

/-- Puts the clock forward. -/
def advanceTo (w : World) (t : Instant) : World :=
  { w with sys := { w.sys with now := max w.sys.now t } }

def booking? (w : World) (r : Ref) : Option Booking := w.bookings[r]?

def updateBooking (w : World) (r : Ref) (f : Booking → Booking) : World :=
  { w with bookings := w.bookings.modify r f }

def label (w : World) (r : Ref) : Label := ((w.booking? r).map (·.label)).getD ""

/-- The record that a label stands for. -/
def ref? (w : World) (l : Label) : Option Ref := w.handles.lookup l

def dropLabel (w : World) (l : Label) : World :=
  { w with handles := w.handles.filter (·.1 != l) }

/-- Lets a label stand for a record. -/
def bindLabel (w : World) (l : Label) (r : Ref) : World :=
  { w with handles := w.handles.filter (·.1 != l) ++ [(l, r)] }

def actor (w : World) : Place → Actor
  | .main => w.main
  | .worker i => (w.workers[i]?).getD {}

def setActor (w : World) (place : Place) (a : Actor) : World :=
  match place with
  | .main => { w with main := a }
  | .worker i =>
    let padded := w.workers ++ List.replicate (i + 1 - w.workers.length) {}
    { w with workers := padded.set i a }

def threadName (w : World) : Place → String
  | .main => "main"
  | .worker i => ((w.sys.pool.workers[i]?).map (·.name)).getD ""

def interrupted (w : World) (place : Place) : Bool := (w.actor place).thread.interrupted w.sys

/-- How often the keep-alive time of a worker is over that has been parked since an instant. -/
def expiries (w : World) (since : Instant) : Nat :=
  elapsedSince w.now since / w.keepAlive.nanos

/-- Which of the parked workers is woken next: the one that has been parked longest. A worker that
stays once its keep-alive time is over parks again. -/
def wakeChoice (w : World) : Nat :=
  let parked := w.sys.pool.parked
  let since (t : Instant) : Instant := t + w.expiries t * w.keepAlive.nanos
  let waiting := (w.parkings.filter (parked.contains ·.1)).map fun (i, t) => (i, since t)
  match waiting.mergeSort fun a b => a.2 ≤ b.2 with
  | (i, _) :: _ => parked.idxOf i
  | [] => 0

/-- Notes which workers have parked, after something happened to them. -/
def notePark (w : World) (before : Option WorkerPhase) (i : Nat) : World :=
  if before != some .parked && w.sys.pool.phase? i == some .parked then
    { w with parkings := w.parkings.filter (·.1 != i) ++ [(i, w.now)] }
  else w

/-! ## Showing records -/

/-- The offset of an instant from the base of a record. -/
def offsetText (w : World) (r : Ref) (t : Instant) : String :=
  match w.booking? r with
  | some b =>
    if b.approximate then "~" ++ Text.Numeral.ofInt ((t - b.base) / nanosPerSecond) ++ "s"
    else Text.Numeral.ofInt (t - b.base)
  | none => ""

def infoJson (w : World) (r : Ref) : Json :=
  match w.sys.record? r with
  | some record =>
    .object [
      ("id", .nat record.id), ("key_id", .nat record.key.id), ("state", .string record.state.tag),
      ("terminal", .bool record.isFinal), ("periodic", .bool record.repeats),
      ("failures", .nat record.failedHandoffs.toNat),
      ("trigger", .string (w.offsetText r record.trigger)),
      ("text", .string (record.describe w.now))]
  | none => .null

def stateJson (w : World) (r : Ref) : Json := .string (((w.sys.state? r).map (·.tag)).getD "")

/-- The states of the records that labels stand for. -/
def statesJson (w : World) : Json :=
  .object (w.handles.map fun (l, r) => (l, w.stateJson r))

/-! ## Gates and threads -/

/-- Opens all gates for good. -/
def openAllGates (w : World) : World := { w with allGatesOpen := true }

def openGate (w : World) (name : String) : World :=
  { w with openGates := w.openGates ++ [name] }

/-- The names of the threads on which bodies were started, in order. -/
def sortedThreadNames (w : World) : List String :=
  w.threadNames.mergeSort fun a b => a < b || a == b

end World

end TaskScheduler.Workload
