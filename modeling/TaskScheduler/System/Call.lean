import TaskScheduler.System

/-
  What a caller does, one section after the other: submitting, cancelling, fetching an outcome,
  submitting several bodies at once, and disposing of the service.
-/
namespace TaskScheduler

/-- What can be asked of the service. -/
inductive Request where
  /-- Run a body as soon as a worker is free. -/
  | submit
  /-- Run a body once after a delay. -/
  | schedule (delay : Duration)
  /-- Run a body again and again. -/
  | scheduleSeries (initial : Duration) (recurrence : Recurrence)
  | cancel (record : Ref) (mayInterrupt : Bool)
  /-- Take the outcome of a record, waiting for ever or for a time. -/
  | fetch (record : Ref) (timeout : Option Duration)
  /-- Submit a number of bodies and wait for all of them. -/
  | submitAll (count : Nat)
  | dispose
deriving DecidableEq, Repr

/-- The record whose handle a request needs. -/
def Request.handle? : Request → Option Ref
  | .cancel r _ | .fetch r _ => some r
  | _ => none

namespace System

variable {α : Type}

/-- How a periodic task is counted. -/
def kindOf : Recurrence → SubmissionKind
  | .once => .delayed
  | .fixedRate _ => .fixedRate
  | .fixedDelay _ => .fixedDelay

/-- The period of a recurrence is no time at all. -/
def hasZeroPeriod : Recurrence → Bool
  | .once => false
  | .fixedRate period | .fixedDelay period => period.isZero

/-- Makes a record that is due after a delay. -/
def arrange (s : System α) (recurrence : Recurrence) (delay : Duration) : System α × Submission :=
  let (s', r) := s.create recurrence (deadline s.clockEnd s.now delay)
  (s', .checking r (kindOf recurrence))

/-- The instant at which a timeout ends, if the clock gets that far. -/
def timeoutEnd (s : System α) (timeout : Duration) : Option Instant :=
  let limit := s.now + timeout.nanos
  if limit ≤ s.clockEnd then some limit else none

/-- What the call begins with. -/
def firstStage (s : System α) : Request → System α × Call α
  | .submit => (s, .submission .arriving)
  | .schedule delay =>
    let (s', stage) := s.arrange .once delay
    (s', .submission stage)
  | .scheduleSeries delay recurrence =>
    if hasZeroPeriod recurrence then
      (s, .submission (.failed none (.invalidArgument "period must be greater than zero")))
    else
      let (s', stage) := s.arrange recurrence delay
      (s', .submission stage)
  | .cancel r mayInterrupt => (s, .withdrawal (.asking r mayInterrupt))
  | .fetch r timeout =>
    (s, .retrieval (.waiting r (timeout.bind fun t => (s.timeoutEnd t).map (·, t))))
  | .submitAll 0 => (s, .batch (.collecting [] []))
  | .submitAll (n + 1) => (s, .batch (.submitting [] .arriving n))
  | .dispose => (s, .disposal .asking)

/-- A client begins a call. -/
def begin (s : System α) (request : Request) : System α :=
  let (s', call) := s.firstStage request
  { s' with calls := s'.calls ++ [call] }

/-- The next section of a submission. -/
def submissionStep (s : System α) (choice : Nat) : Submission → Option (System α × Submission)
  | .arriving =>
    if s.lifecycle.acceptsWork then
      let (s', r) := s.create .once s.now
      some (s', .executing r)
    else some (s, .explaining none)
  | .executing r =>
    match s.execute r choice with
    | (s', .ok _) => some (s', .counting r .immediate)
    | (s', .error .shutdown) => some (s', .explaining (some r))
    | (s', .error (.spawn reason)) => some (s', .failed (some r) (.threadSpawn .worker reason))
    | (s', .unwound f) => some (s', .aborted r f)
  | .checking r kind =>
    if s.lifecycle.acceptsWork then some (s, .offering r kind) else some (s, .explaining (some r))
  | .offering r kind =>
    match s.offer r with
    | (s', some true) => some (s', .startingPump r kind (s.key r))
    | (s', some false) => some (s', .counting r kind)
    | (s', none) => some (s', .explaining (some r))
  | .startingPump r kind _ =>
    if s.pump.isSome then none
    else
      match s.pumpNameFault? with
      | some f => some (s, .aborted r f)
      | none => some (s.launchPump, .counting r kind)
  | .retracting r k reason => some ((s.removeKey k).1, .failed (some r) (pumpRefusal reason))
  | .counting r kind =>
    let counted :=
      { s with metrics := s.metrics.countSubmitted kind, accepted := s.accepted ++ [r] }
    some (counted.report (if kind = .immediate then [] else [.scheduled s.name (s.id r) kind]),
      .accepted r)
  | .explaining r => some (s, .failed r s.rejection)
  | .accepted _ | .failed .. | .aborted .. => none

/-- The operating system refuses the thread of the pump that a submission is to start. -/
def submissionRefused (s : System α) (reason : String) :
    Submission → Option (System α × Submission)
  | .startingPump r _ k => s.refusePump.map (·, .retracting r k reason)
  | _ => none

/-- The next section of a cancellation by a handle. -/
def withdrawalStep (s : System α) : Withdrawal → Option (System α × Withdrawal)
  | .asking r mayInterrupt =>
    match s.cancelRecord r mayInterrupt with
    | (s', ⟨true, some k⟩) => some (s', .removing r k)
    | (s', ⟨true, none⟩) => some (s', .counting r)
    | (s', ⟨false, _⟩) => some (s', .answered r false)
  | .removing r k => some ((s.removeKey k).1, .counting r)
  | .counting r => some ({ s with metrics := s.metrics.countCancelled }, .answered r true)
  | .answered .. => none

/-- Takes the outcome of a record; one that is gone was taken before. -/
def takeAnswer (s : System α) (r : Ref) : System α × Except TaskError α :=
  let (s', outcome) := s.collectOutcome r
  (s', outcome.getD (.error .outcomeTaken))

/-- The next section of the retrieval of an outcome. -/
def retrievalStep (s : System α) : Retrieval α → Option (System α × Retrieval α)
  | .waiting r limit =>
    if s.isFinal r then some (s, .taking r)
    else
      match limit with
      | some (last, timeout) =>
        if last ≤ s.now then some (s, .answered r (.error (.timeout timeout))) else none
      | none => none
  | .taking r =>
    let (s', outcome) := s.takeAnswer r
    some (s', .answered r outcome)
  | .answered .. => none

/-- The next section of a disposal. -/
def disposalStep (s : System α) : Disposal → Option (System α × Disposal)
  | .asking =>
    match s.lifecycle.leaveRunning with
    | (lifecycle, true) =>
      some ({ s with lifecycle }.report [.shuttingDown s.name s.queue.size], .closing)
    | (_, false) => some (s, .finished)
  | .closing =>
    match s.closeQueue with
    | (s', true) => some (s', .startingPump)
    | (s', false) => some (s', .finished)
  | .startingPump =>
    if s.pump.isSome then none
    else
      match s.pumpNameFault? with
      | some f => some (s, .aborted f)
      | none => some (s.launchPump, .finished)
  | .draining =>
    match s.pump with
    | none => some (s, .finished)
    | some (.collapsed f) => some (s, .aborted f)
    | some _ => none
  | .finished | .aborted _ => none

/-- The operating system refuses the thread of the pump that a disposal is to start. The caller
becomes the pump. -/
def disposalRefused (s : System α) (reason : String) : Disposal → Option (System α × Disposal)
  | .startingPump =>
    s.refusePump.map fun s' =>
      ({ s' with pump := some .waiting }.report [.drainedByCaller s.name (pumpRefusal reason)],
        .draining)
  | _ => none

/-- What a batch does after a submission of it has come to an end. -/
def batchNext (accepted : List Ref) (left : Nat) : Submission → Batch α
  | .accepted r =>
    match left with
    | 0 => .collecting [] (accepted ++ [r])
    | n + 1 => .submitting (accepted ++ [r]) .arriving n
  | .failed _ error =>
    match accepted with
    | [] => .failed error
    | r :: rest => .cancelling error (.asking r false) rest
  | .aborted _ failure => .aborted failure
  | stage => .submitting accepted stage left

/-- The next section of a submission of several bodies. -/
def batchStep (s : System α) (choice : Nat) : Batch α → Option (System α × Batch α)
  | .submitting accepted current left =>
    (s.submissionStep choice current).map fun (s', stage) => (s', batchNext accepted left stage)
  | .cancelling error current left =>
    (s.withdrawalStep current).map fun (s', stage) =>
      match stage, left with
      | .answered .., [] => (s', .failed error)
      | .answered .., r :: rest => (s', .cancelling error (.asking r false) rest)
      | stage, left => (s', .cancelling error stage left)
  | .collecting outcomes [] => some (s, .finished outcomes)
  | .collecting outcomes (r :: rest) =>
    if s.isFinal r then
      let (s', outcome) := s.takeAnswer r
      some (s', .collecting (outcomes ++ [outcome]) rest)
    else none
  | .finished _ | .failed _ | .aborted _ => none

/-- The caller of a submission gets a handle if it was accepted. -/
def giveHandle (s : System α) : Submission → System α
  | .accepted r => { s with handles := s.handles ++ [r] }
  | _ => s

/-- The next section of a call. -/
def stageStep (s : System α) (choice : Nat) : Call α → Option (System α × Call α)
  | .submission stage =>
    (s.submissionStep choice stage).map fun (s', stage) =>
      (s'.giveHandle stage, .submission stage)
  | .withdrawal stage => (s.withdrawalStep stage).map fun (s', stage) => (s', .withdrawal stage)
  | .retrieval stage => (s.retrievalStep stage).map fun (s', stage) => (s', .retrieval stage)
  | .disposal stage => (s.disposalStep stage).map fun (s', stage) => (s', .disposal stage)
  | .batch stage => (s.batchStep choice stage).map fun (s', stage) => (s', .batch stage)

/-- The operating system refuses the thread of the pump that a call is to start. -/
def stageRefused (s : System α) (reason : String) : Call α → Option (System α × Call α)
  | .submission stage =>
    (s.submissionRefused reason stage).map fun (s', stage) => (s', .submission stage)
  | .disposal stage =>
    (s.disposalRefused reason stage).map fun (s', stage) => (s', .disposal stage)
  | _ => none

/-- The next section of the `i`-th call, if it has one to carry out. -/
def callStep (s : System α) (i choice : Nat) : Option (System α) :=
  (s.calls[i]?).bind fun call =>
    (s.stageStep choice call).map fun (s', call') => { s' with calls := s'.calls.set i call' }

/-- The operating system refuses the thread of the pump that the `i`-th call is to start. -/
def callRefused (s : System α) (i : Nat) (reason : String) : Option (System α) :=
  (s.calls[i]?).bind fun call =>
    (s.stageRefused reason call).map fun (s', call') => { s' with calls := s'.calls.set i call' }

end System

end TaskScheduler
