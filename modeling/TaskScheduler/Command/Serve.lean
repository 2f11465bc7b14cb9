import TaskScheduler.Command
import TaskScheduler.Workload.Move

/-
  A run of the program as a service: it starts, reports its heartbeat, and drains once it is
  interrupted.
-/
namespace TaskScheduler.Command

open Workload

/-- An event with the name of the thread that reported it, if that is one of the service's own. -/
structure LogLine where
  event : Event
  thread : Option String := none

namespace LogLine

/-- The part of the program that reports an event. -/
def target (l : LogLine) : String :=
  match l.event with
  | .heartbeat .. => "gg_scheduler::cli::serve"
  | .started .. | .shuttingDown .. | .notTerminatedInTime .. | .stillPending ..
  | .maintenanceRefused .. | .scheduled .. => "gg_scheduler::service"
  | .poolNotGrown .. | .poolNotGrownForQueue .. | .prestartStopped .. | .strandedRejected ..
  | .workerStarted .. | .workerRetired .. => "gg_scheduler::scheduler::pool"
  | .terminated .. | .handoffFault .. | .handoffAbandoned .. | .handoffDelayed ..
  | .notRescheduled .. | .drainedByCaller ..
  | .pumpStarted .. | .pumpIdle .. | .dispatching .. | .periodicGivenUp .. | .delayedGivenUp ..
  | .queueDrained .. => "gg_scheduler::scheduler::dispatcher"

/-- The names of the fields of an event. -/
def fieldNames (l : LogLine) : List String := "message" :: l.event.fields.map (·.1)

def passes (filter : Log.Filter) (l : LogLine) : Bool :=
  filter l.target l.event.level l.fieldNames

/-- The line as a JSON object. -/
def toJson (l : LogLine) : Json :=
  .object ([
    ("level", .string l.event.level.text),
    ("fields", .object (("message", .string l.event.message) ::
      l.event.fields.map fun (name, value) => (name, value.toJson)))] ++
    (l.thread.toList.map fun name => ("threadName", .string name)))

end LogLine

/-- The name under which the program runs its service. -/
def serviceName : String := "gg-scheduler"

/-- A service with the lines that it has logged. -/
structure Session where
  world : World
  lines : List LogLine := []

namespace Session

/-- Goes on to a world that a thread has moved to, and logs what was reported meanwhile. -/
def goOn (s : Session) (w : World) (thread : Option String) : Session :=
  let reported := w.sys.events.drop s.world.sys.events.length
  { world := w, lines := s.lines ++ reported.map fun event => { event, thread } }

/-- A worker moves; if it enters the body of the heartbeat that is reported. -/
def goOnWorker (s : Session) (w : World) (i : Nat) : Session :=
  let w :=
    if s.world.log.length < w.log.length then { w with sys := w.sys.report [w.sys.heartbeat] }
    else w
  s.goOn w (some (w.threadName (.worker i)))

/-- The first worker of a list that has something to do does it. -/
def workerMove (s : Session) : List Nat → Option Session
  | [] => none
  | i :: rest =>
    match s.world.workerMove i with
    | some w => some (s.goOnWorker w i)
    | none => s.workerMove rest

/-- The next thing that happens without any time passing. -/
def move (s : Session) : Option Session :=
  match s.world.pumpMove with
  | some w => some (s.goOn w (some (serviceName ++ "-dispatcher")))
  | none => s.workerMove (List.range s.world.sys.pool.workers.length)

/-- Lets everything happen that needs no time. -/
def settle (fuel : Nat) (s : Session) : Session :=
  match fuel with
  | 0 => s
  | fuel + 1 =>
    match s.move with
    | some s => settle fuel s
    | none => s

/-- A bound on what happens between the start and the interruption, and from there to the end. -/
def fuel : Nat := 1000

/-- A service that has started and has reported its first heartbeat. -/
def start (settings : Settings) (heartbeat : Duration) : Session :=
  let w : World := {
    sys := .initial Workload.host serviceName settings.service farClockEnd 0
    keepAlive := settings.service.pool.keepAlive }
  let fresh : Session := { world := w, lines := w.sys.events.map ({ event := · }) }
  let scheduled :=
    (w.submit (.scheduleSeries .zero (.fixedRate heartbeat)) "heartbeat" [default]).1
  (fresh.goOn scheduled none).settle fuel

/-- The service is interrupted and drains. -/
def interrupt (s : Session) : Session :=
  (s.goOn (s.world.beginCall .dispose []).1 none).settle fuel

end Session

/-- What is told to the user when the service is interrupted. -/
def interruptedText : String := "Shutdown signal received, draining...\n"

/-- What is told to the user at the end. -/
def finishedText (s : Session) : String :=
  if s.world.sys.lifecycle.hasEnded then "Shutdown complete\n"
  else
    "Shutdown timeout, " ++ Text.Numeral.ofNat s.world.sys.queue.size ++ " delayed tasks and " ++
      Text.Numeral.ofNat s.world.sys.pool.active ++ " running tasks remaining\n"

end TaskScheduler.Command
