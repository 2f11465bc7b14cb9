import TaskScheduler.System

/-
  Threads that run bodies, and the question a body can ask of its thread: was the task that runs
  here cancelled with an interruption?

  A body may run another record on its own thread, so bodies are nested. The thread has one slot for
  the record whose flag is asked for: entering a body fills it, leaving a body empties it.
-/
namespace TaskScheduler

/-- A thread with the records whose bodies it is inside of, the innermost first. -/
structure Thread where
  bodies : List Ref := []
  /-- The record whose flag answers for the thread. -/
  slot : Option Ref := none
deriving DecidableEq, Repr

namespace Thread

/-- The thread enters the body of a record. -/
def enter (t : Thread) (r : Ref) : Thread := { bodies := r :: t.bodies, slot := some r }

/-- The thread leaves the innermost body, by its end or by a panic. -/
def leave (t : Thread) : Thread := { bodies := t.bodies.tail, slot := none }

/-- The task that runs on the thread was cancelled with an interruption. -/
def interrupted {α : Type} (t : Thread) (s : System α) : Bool :=
  t.slot.any fun r => (s.record? r).any (·.interruptRequested)

end Thread

end TaskScheduler
