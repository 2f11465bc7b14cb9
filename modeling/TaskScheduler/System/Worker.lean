import TaskScheduler.System

/-
  What a worker does, one section after the other: it picks a record up, runs its body, puts a
  periodic record back into the delay queue, counts the run and looks at the run queue again.
-/
namespace TaskScheduler.System

variable {α : Type}

def setWorker (s : System α) (i : Nat) (phase : WorkerPhase) : System α :=
  { s with pool := s.pool.setPhase i phase }

/-- The body that a worker is in has ended. -/
def bodyEnds (s : System α) (i : Nat) (result : BodyResult α) : Option (System α) :=
  match s.pool.phase? i with
  | some (.running r) =>
    match s.completeRun r result with
    | (s', .finished) => some (s'.setWorker i (.ran r))
    | (s', .reschedule) => some (s'.setWorker i (.requeueing r))
  | _ => none

/-- A worker calls the body of the record that it has moved to `running`. If there is none left the
run is over at once. -/
def workerEnter (s : System α) (i : Nat) (r : Ref) : System α :=
  match s.enterBody r with
  | (s', true) => s'.setWorker i (.running r)
  | (s', false) =>
    let entered := s'.setWorker i (.running r)
    (entered.bodyEnds i .spent).getD entered

/-- A worker puts a periodic record back into the delay queue. -/
def workerRequeue (s : System α) (i : Nat) (r : Ref) : System α :=
  match s.offer r with
  | (s', some true) => s'.setWorker i (.startingPump r (s.key r))
  | (s', some false) => s'.setWorker i (.ran r)
  | (s', none) => s'.setWorker i (.refused r)

/-- A worker comes back to the run queue, and reports it if it leaves the pool. -/
def workerLook (s : System α) (i : Nat) : Option (System α) :=
  (s.pool.look i).map fun pool =>
    let left : Bool := pool.phase? i == some .exited
    { s with pool }.report (if left then [.workerRetired i] else [])

/-- The next section of a worker, if it has one to carry out. A worker inside a body has none: the
body ends by `bodyEnds`. The pump is started only after the one before it has ended; if it cannot
have its name, the panic ends the thread of the worker there. -/
def workerStep (s : System α) (i : Nat) : Option (System α) :=
  match s.pool.phase? i with
  | some (.picked r) =>
    match s.beginRun r with
    | (s', true) => some (s'.setWorker i (.begun r))
    | (s', false) => some (s'.setWorker i (.ran r))
  | some (.begun r) => some (s.workerEnter i r)
  | some (.requeueing r) => some (s.workerRequeue i r)
  | some (.refused r) => some ((s.giveUp r).1.setWorker i (.ran r))
  | some (.startingPump r _) =>
    if s.pump.isNone && s.pumpNameFault?.isNone then some (s.launchPump.setWorker i (.ran r))
    else none
  | some (.retracting r k reason) => some ((s.removeKey k).1.setWorker i (.rejecting r reason))
  | some (.rejecting r reason) => some ((s.reject r (pumpRefusal reason).text).setWorker i (.ran r))
  | some (.ran _) => (s.pool.countRun i).map fun pool => { s with pool }
  | _ => s.workerLook i

/-- The operating system refuses the thread of the pump that a worker is to start. -/
def workerRefused (s : System α) (i : Nat) (reason : String) : Option (System α) :=
  match s.pool.phase? i with
  | some (.startingPump r k) =>
    s.refusePump.map fun s' =>
      (s'.report [.notRescheduled s.name (s.id r) (pumpRefusal reason)]).setWorker i
        (.retracting r k reason)
  | _ => none

/-- The keep-alive time of a parked worker is over. -/
def workerExpires (s : System α) (i : Nat) : Option (System α) :=
  (s.pool.expire i).map fun pool => { s with pool }

end TaskScheduler.System
