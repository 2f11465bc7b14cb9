import TaskScheduler.Record

/-
  The delay queue: records that are not yet due, in the order of their keys.

  The dispatcher's pump is the only consumer. The queue also keeps track of whether there is one,
  so that whoever puts a record in knows when a pump has to be started.
-/
namespace TaskScheduler

/-- The number under which a record is kept in the service. -/
abbrev Ref := Nat

/-- What the consumer gets from the queue. -/
inductive Delivery where
  /-- The first entry. It is early if its trigger is still to come. -/
  | ready (record : Ref) (early : Bool)
  /-- The queue was empty for the whole idle time. -/
  | idle
  /-- The queue is closed, and nothing is left in it. -/
  | closed
deriving DecidableEq, Repr

/-- Records that are not yet due, in the order of their keys. -/
structure DelayQueue where
  entries : List (Key × Ref) := []
  closed : Bool := false
  /-- A consumer is at work or is being started. -/
  consumerActive : Bool := false
  /-- The depth that was last published. -/
  depthGauge : Option Nat := none
deriving DecidableEq, Repr

namespace DelayQueue

/-- Puts an entry at its place; an entry with the same key gives way. -/
def insertEntry (k : Key) (r : Ref) : List (Key × Ref) → List (Key × Ref)
  | [] => [(k, r)]
  | (k', r') :: rest =>
    if k < k' then (k, r) :: (k', r') :: rest
    else if k = k' then (k, r) :: rest
    else (k', r') :: insertEntry k r rest

/-- Publishes the depth. -/
def publishDepth (q : DelayQueue) : DelayQueue := { q with depthGauge := some q.entries.length }

/-- Puts a record in if it is pending, and answers whether a consumer has to be started. A closed
queue takes nothing. -/
def offer (q : DelayQueue) (pending : Bool) (k : Key) (r : Ref) : Option (DelayQueue × Bool) :=
  if q.closed then none
  else
    let kept := if pending then { q with entries := insertEntry k r q.entries }.publishDepth else q
    some ({ kept with consumerActive := true }, !q.consumerActive)

/-- Puts a record back whose hand-off has failed, if it is pending; the queue may be closed. -/
def putBack (q : DelayQueue) (pending : Bool) (k : Key) (r : Ref) : DelayQueue :=
  if pending then { q with entries := insertEntry k r q.entries } else q

/-- Takes out the entry with a key, if there is one. -/
def remove (q : DelayQueue) (k : Key) : DelayQueue × Bool :=
  if q.entries.any (·.1 = k) then
    ({ q with entries := q.entries.filter (·.1 ≠ k) }.publishDepth, true)
  else (q, false)

/-- What the consumer gets at an instant; `none` as long as it has to wait. The first entry is given
out once it is due, or at once if the queue is closed. -/
def take? (q : DelayQueue) (now : Instant) (idleElapsed : Bool) : Option (Delivery × DelayQueue) :=
  match q.entries with
  | (k, r) :: rest =>
    if k.trigger ≤ now ∨ q.closed then
      some (.ready r (now < k.trigger), { q with entries := rest }.publishDepth)
    else none
  | [] =>
    if q.closed then some (.closed, { q with consumerActive := false })
    else if idleElapsed then some (.idle, { q with consumerActive := false })
    else none

/-- The time in nanoseconds until the first entry is due. -/
def untilDue (q : DelayQueue) (now : Instant) : Option Nat :=
  q.entries.head?.map fun (k, _) => elapsedSince k.trigger now

/-- Closes the queue and answers whether a consumer has to be started. -/
def close (q : DelayQueue) : DelayQueue × Bool :=
  ({ q with closed := true, consumerActive := true }, !q.consumerActive)

/-- The consumer that was to be started could not be. -/
def releaseConsumer (q : DelayQueue) : DelayQueue := { q with consumerActive := false }

def size (q : DelayQueue) : Nat := q.entries.length

/-- The records in the queue, the first to be due in front. -/
def refs (q : DelayQueue) : List Ref := q.entries.map (·.2)

end DelayQueue

end TaskScheduler
