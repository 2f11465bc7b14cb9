import TaskScheduler.System

/-
  What the pump does, one section after the other.

  It takes the next record out of the delay queue and hands it to the pool. A hand-off that fails or
  panics is repeated after a growing wait, and after the last one the record is rejected. Once the
  queue is closed and empty the pump closes the pool, waits for it to drain and marks the service
  terminated.
-/
namespace TaskScheduler.System

variable {α : Type}

def setPump (s : System α) (phase : PumpPhase) : System α := { s with pump := some phase }

/-- The pump asks the delay queue, and goes on with what it gets. -/
def pumpTake (s : System α) (idleElapsed : Bool) : Option (System α) :=
  match s.queue.take? s.now idleElapsed with
  | some (.ready r early, queue) => some { s with queue, pump := some (.holding r early) }
  | some (.idle, queue) => some ({ s with queue, pump := none }.report [.pumpIdle s.name])
  | some (.closed, queue) => some { s with queue, pump := some .stopping }
  | none => none

/-- What is to be done with a pending record: while the service drains, periodic records are given
up, and if it is so configured those that are not yet due; a record that is early after a failed
hand-off waits for its trigger; any other is handed over. -/
def pumpDecide (s : System α) (r : Ref) (early : Bool) : PumpPhase :=
  if (early || s.queue.closed) && s.repeats r then .cancelling r
  else if early && !s.config.runDelayedOnShutdown then .cancelling r
  else if early && ((s.record? r).any (0 < ·.failedHandoffs)) then .pausing r (s.key r).trigger
  else .handing r

/-- The pump is about to hand a record to the pool. -/
def startHandoff (s : System α) (r : Ref) (early : Bool) : System α :=
  (s.report [.dispatching s.name (s.id r) early]).setPump (.handing r)

/-- The pump gives a record up because the service drains. -/
def pumpGiveUp (s : System α) (r : Ref) : System α :=
  let event : Event :=
    if s.repeats r then .periodicGivenUp s.name (s.id r) else .delayedGivenUp s.name (s.id r)
  let (s', cancelled) := s.giveUp r
  (s'.report (if cancelled then [event] else [])).setPump .waiting

/-- Counts a failed hand-off and decides whether there is to be another one. -/
def pumpFail (s : System α) (r : Ref) (reason : String) : System α :=
  let (noted, attempts) :=
    { s with metrics := s.metrics.countHandoffFailure }.noteHandoffFailure r
  let n := attempts.toNat
  if s.config.retryLimit ≤ attempts then
    (noted.report [.handoffAbandoned s.name (s.id r) n reason]).setPump
      (.rejecting r ("backend pool refused task after " ++ Text.Numeral.ofNat n ++ " attempts: "
        ++ reason))
  else
    let backoff := s.config.backoffAfter n
    (noted.report [.handoffDelayed s.name (s.id r) n backoff reason]).setPump
      (.postponing r backoff)

/-- The next section of the pump, if it has one to carry out; `choice` says which parked worker a
hand-off wakes. -/
def pumpStep (s : System α) (choice : Nat) : Option (System α) :=
  match s.pump with
  | none => none
  | some .waiting => s.pumpTake false
  | some (.holding r early) =>
    some (s.setPump (if s.isPending r then .checked r early else .waiting))
  | some (.checked r early) =>
    match s.pumpDecide r early with
    | .handing r => some (s.startHandoff r early)
    | phase => some (s.setPump phase)
  | some (.cancelling r) => some (s.pumpGiveUp r)
  | some (.pausing r wakeAt) => if wakeAt ≤ s.now then some (s.startHandoff r true) else none
  | some (.handing r) =>
    match s.execute r choice with
    | (s', .ok _) => some (s'.setPump .waiting)
    | (s', .error e) => some (s'.setPump (.failed r e.text))
    | (s', .unwound f) => some (s'.setPump (.faulted r f))
  | some (.faulted r f) =>
    some (((s.report [.handoffFault s.name (s.id r) f]).withdraw r).1.setPump (.withdrawn r f))
  | some (.withdrawn r f) =>
    some (s.setPump (if s.isPending r then .failed r ("hand-off " ++ f.text) else .waiting))
  | some (.failed r reason) => some (s.pumpFail r reason)
  | some (.rejecting r reason) => some ((s.reject r reason).setPump .waiting)
  | some (.postponing r backoff) =>
    some ((s.postpone r (deadline s.clockEnd s.now backoff)).setPump (.offering r))
  | some (.offering r) => some ((s.putBack r).setPump .waiting)
  | some .stopping =>
    match (s.report [.queueDrained s.name]).shutdownPool with
    | (s', none) => some (s'.setPump .awaiting)
    | (s', some f) => some (s'.setPump (.collapsed f))
  | some .awaiting => if s.pool.hasDrained then some (s.setPump .marking) else none
  | some .marking =>
    some { s.report [.terminated s.name] with
      lifecycle := s.lifecycle.conclude, pump := none }
  | some (.collapsed _) => none

/-- The delay queue has been empty for the idle time while the pump waited. -/
def pumpIdle (s : System α) : Option (System α) :=
  if s.pump = some .waiting && s.queue.entries.isEmpty && !s.queue.closed then s.pumpTake true
  else none

/-- A hand-off panics before the record has reached the pool. -/
def pumpFault (s : System α) (f : Failure) : Option (System α) :=
  match s.pump with
  | some (.holding r _) | some (.checked r _) | some (.pausing r _) | some (.handing r) =>
    some (s.setPump (.faulted r f))
  | _ => none

end TaskScheduler.System
