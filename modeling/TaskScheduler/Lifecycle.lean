/-
  The life of a service: it runs, then shuts down, then is terminated, and never goes back.
-/
namespace TaskScheduler

/-- The stage a service has reached. -/
inductive Lifecycle where
  | running
  | shuttingDown
  | terminated
deriving DecidableEq, Repr, Inhabited

namespace Lifecycle

/-- New work is accepted only while the service runs. -/
def acceptsWork (l : Lifecycle) : Bool := l == running

/-- Leaves `running`. The answer is false if that had already happened. -/
def leaveRunning : Lifecycle → Lifecycle × Bool
  | running => (shuttingDown, true)
  | l => (l, false)

/-- The last stage, once nothing is left to run. -/
def conclude (_ : Lifecycle) : Lifecycle := terminated

def hasEnded (l : Lifecycle) : Bool := l == terminated

/-- The stage in words. -/
def text : Lifecycle → String
  | running => "running"
  | shuttingDown => "shutting down"
  | terminated => "terminated"

/-- The stage as a constant's name. -/
def constantName : Lifecycle → String
  | running => "Running"
  | shuttingDown => "ShuttingDown"
  | terminated => "Terminated"

/-- The stage as a value of a record that is sent or stored. -/
def tag : Lifecycle → String
  | running => "running"
  | shuttingDown => "shutting_down"
  | terminated => "terminated"

/-- How far the life of the service has come. -/
def rank : Lifecycle → Nat
  | running => 0
  | shuttingDown => 1
  | terminated => 2

theorem rank_le_conclude (l : Lifecycle) : l.rank ≤ l.conclude.rank := by
  cases l <;> decide

end Lifecycle

end TaskScheduler
