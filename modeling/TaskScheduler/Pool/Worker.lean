import TaskScheduler.DelayQueue

/-
  Workers of the pool: what each of them is doing between two looks at the run queue.
-/
namespace TaskScheduler

/-- Where a worker stands in its loop. -/
inductive WorkerPhase where
  /-- Started, and not yet at the run queue. -/
  | starting
  /-- Waiting to be woken. -/
  | parked
  /-- Woken, by a call or because the keep-alive time is over, and not yet back at the run queue. -/
  | woken (timedOut : Bool)
  /-- Has picked a record up. -/
  | picked (record : Ref)
  /-- Has moved the record to `running`. -/
  | begun (record : Ref)
  /-- Is inside the body. -/
  | running (record : Ref)
  /-- Has to put a periodic record back into the delay queue. -/
  | requeueing (record : Ref)
  /-- The delay queue was closed, so the periodic record has to be given up. -/
  | refused (record : Ref)
  /-- Has to start the pump for the record it has put back under a key. -/
  | startingPump (record : Ref) (key : Key)
  /-- No pump could be started, so the record has to leave the delay queue. -/
  | retracting (record : Ref) (key : Key) (reason : String)
  /-- The record has to be rejected because no pump could be started. -/
  | rejecting (record : Ref) (reason : String)
  /-- Is through with the record. -/
  | ran (record : Ref)
  /-- Has counted the run, and is not yet back at the run queue. -/
  | counted
  | exited
deriving DecidableEq, Repr, Inhabited

namespace WorkerPhase

/-- The record that a worker has picked up and is not yet through with. -/
def record? : WorkerPhase → Option Ref
  | picked r | begun r | running r | requeueing r | refused r | startingPump r _
  | retracting r _ _ | rejecting r _ | ran r => some r
  | _ => none

/-- Counted as active: from picking a record up until the next look at the run queue. -/
def isBusy : WorkerPhase → Bool
  | counted => true
  | p => p.record?.isSome

/-- Counted as idle: parked, or woken and not yet back at the run queue. -/
def isIdle : WorkerPhase → Bool
  | parked | woken _ => true
  | _ => false

/-- Has not left the pool. -/
def isLive : WorkerPhase → Bool
  | exited => false
  | _ => true

end WorkerPhase

/-- A worker thread. -/
structure Worker where
  name : String
  phase : WorkerPhase := .starting
deriving DecidableEq, Repr

end TaskScheduler
