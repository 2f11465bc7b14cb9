import TaskScheduler.Workload.World

/-
  Bodies: how a thread enters the body of a record and comes to its end, and the sections of a
  record that a workload carries out by itself.
-/
namespace TaskScheduler.Workload.World

/-- A thread enters the body of a record that has been moved to `running`. -/
def enterBody (w : World) (place : Place) (r : Ref) : World :=
  match w.booking? r with
  | some b =>
    match (b.runs[min b.started (b.runs.length - 1)]?).getD default with
    | .mk waits ending =>
      let a := w.actor place
      let name := w.threadName place
      let w := w.updateBooking r fun b => { b with started := b.started + 1 }
      let w := { w with
        log := w.log ++ [b.label]
        threadNames := if w.threadNames.contains name then w.threadNames
          else w.threadNames ++ [name] }
      w.setActor place { a with
        thread := a.thread.enter r
        frames := { record := r, waits, ending } :: a.frames }
  | none => w

def afterRunText : AfterRun → String
  | .finished => "finished"
  | .reschedule => "reschedule"

/-- A record whose trigger was set from the end of its run is shown in seconds from now on. -/
def noteReschedule (w : World) (r : Ref) : World :=
  match w.sys.record? r with
  | some record =>
    match record.state, record.recurrence with
    | .pending, .fixedDelay _ => w.updateBooking r fun b => { b with approximate := true }
    | _, _ => w
  | none => w

/-- The answer of an act of the innermost body of a thread, or of the thread itself. -/
def answerAct (w : World) (place : Place) (j : Json) : World :=
  let a := w.actor place
  match a.frames with
  | [] => w.setActor place { a with answer := j }
  | frame :: outer =>
    let ending :=
      match frame.ending with
      | .acts (_ :: rest) => .acts rest
      | e => e
    w.setActor place { a with
      frames := { frame with ending, answers := frame.answers ++ [j] } :: outer }

/-- The innermost body of a thread has come to its end. -/
def leaveBody (w : World) (place : Place) (frame : Frame) (outer : List Frame)
    (result : Except Failure Json) : World :=
  let r := frame.record
  let a := w.actor place
  let w := w.setActor place { a with thread := a.thread.leave, frames := outer }
  let w :=
    match result with
    | .ok value =>
      if w.sys.repeats r && !value.isNull then
        { w with log := w.log ++ [w.label r ++ "=" ++ value.sorted.compact] }
      else w
    | .error _ => w
  match place, outer with
  | .worker i, [] =>
    let w := { w with sys := (w.sys.bodyEnds i (.ofExcept result)).getD w.sys }
    w.noteReschedule r
  | _, _ =>
    let (sys, after) := w.sys.completeRun r (.ofExcept result)
    ({ w with sys }.noteReschedule r).answerAct place (.string (afterRunText after))

/-- A thread runs a record by itself. If the body is entered the answer comes at its end. -/
def runInline (w : World) (place : Place) (r : Ref) : World :=
  match w.sys.beginRun r with
  | (sys, false) => { w with sys }.answerAct place (.string (afterRunText .finished))
  | (sys, true) =>
    match sys.enterBody r with
    | (sys, true) => { w with sys }.enterBody place r
    | (sys, false) =>
      let (sys, after) := sys.completeRun r .spent
      { w with sys }.answerAct place (.string (afterRunText after))

/-- A section of a record that a workload carries out by itself, other than a run. -/
def recordStep (w : World) (r : Ref) : RecordStep → World × Json
  | .info => (w, w.infoJson r)
  | .run => (w, .null)
  | .cancel mayInterrupt =>
    let (sys, c) := w.sys.cancelRecord r mayInterrupt
    let key := c.queuedKey.map fun k => keyJson (w.offsetText r k.trigger) k
    ({ w with sys }, .object [("cancelled", .bool c.accepted), ("key", .ofOption key)])
  | .giveUp =>
    let (sys, cancelled) := w.sys.giveUp r
    ({ w with sys }, .bool cancelled)
  | .reject reason => ({ w with sys := w.sys.reject r reason }, .null)
  | .postpone offset =>
    let base := ((w.booking? r).map (·.base)).getD 0
    let w := if w.sys.isPending r then w.updateBooking r ({ · with approximate := false }) else w
    ({ w with sys := w.sys.postpone r (base + offset) }, .null)
  | .noteFailure =>
    let (sys, n) := w.sys.noteHandoffFailure r
    ({ w with sys }, .nat n.toNat)
  | .take =>
    let (sys, outcome) := w.sys.collectOutcome r
    ({ w with sys }, .ofOption (outcome.map outcomeJson))
  | .wait _ => (w, .bool (w.sys.isFinal r))
  | .offer =>
    match w.sys.offer r with
    | (sys, some needsPump) =>
      ({ w with sys, idleSince := none }, .object [("needs_consumer", .bool needsPump)])
    | (sys, none) => ({ w with sys }, .object [("error", .string "QueueClosed")])
  | .putBack => ({ w with sys := w.sys.putBack r, idleSince := none }, .null)
  | .remove =>
    let (sys, removed) := w.sys.removeKey (w.sys.key r)
    ({ w with sys, idleSince := none }, .bool removed)

end TaskScheduler.Workload.World
