import TaskScheduler.Pool

/-
  Calls that wait for the pool to drain.

  A call looks at the pool, and sleeps if that has not drained. It looks again each time the
  sleepers are woken, and once more, for the last time, when its own time is over.
-/
namespace TaskScheduler

/-- How a call stands that waits for the pool to drain. -/
inductive Await where
  /-- Sleeps since the sleepers had been woken a number of times, for a limited time or for ever. -/
  | asleep (since : Nat) (limited : Bool)
  | answered (drained : Bool)
deriving DecidableEq, Repr

namespace Await

/-- The call looks at the pool. -/
def look (p : Pool) (limited : Bool) : Await :=
  if p.hasDrained then .answered true else .asleep p.drainSignals limited

/-- The sleepers have been woken since the call went to sleep. -/
def isWoken (p : Pool) : Await → Bool
  | asleep since _ => since < p.drainSignals
  | answered _ => false

/-- A sleeping call goes on, because it has been woken or because its time is over; `none` if there
is nothing to make it go on. -/
def resume (p : Pool) (timeOver : Bool) (a : Await) : Option Await :=
  match a with
  | asleep _ limited =>
    if timeOver then if limited then some (.answered p.hasDrained) else none
    else if a.isWoken p then some (look p limited) else none
  | answered _ => none

end Await

end TaskScheduler
