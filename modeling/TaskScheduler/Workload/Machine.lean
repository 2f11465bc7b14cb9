import TaskScheduler.Log.Setup
import TaskScheduler.Pool.Factory
import TaskScheduler.Workload.Files
import TaskScheduler.Workload.Tracing.Filter

/-
  The machine that workloads run on: how much memory it has for threads, and the files and filters
  of its log.
-/
namespace TaskScheduler

namespace Workload

/-- The bytes of memory that a stack has to fit into. -/
def threadMemory : Nat := 34359738368

/-- The bytes behind a stack that keep it apart from the next one. -/
def stackGuard : Nat := 4096

/-- A system that refuses a stack only for its size. -/
def host : Host where
  refusal? _ stackSize :=
    if wordBound ≤ stackSize + stackGuard then some "Invalid argument (os error 22)"
    else if threadMemory ≤ stackSize then some "Resource temporarily unavailable (os error 11)"
    else none

end Workload

namespace WorkerFactory

/-- Starts every worker on the machine of the workloads, under a stem and its index. -/
def named (stem : String) (stackSize : Nat := 0) : WorkerFactory :=
  .ofHost Workload.host stem stackSize

/-- Tries to start a number of workers and no more. -/
def limited (count : Nat) (stem reason : String) (stackSize : Nat := 0) : WorkerFactory where
  start attempt index :=
    if attempt < count then (named stem stackSize).start attempt index else .refused reason

end WorkerFactory

/-- The files and the filters of the machine of the workloads. -/
def Log.commonRoot : Log.Platform where
  readFilter text := do
    let directives ← (Workload.Tracing.parseFilter text).mapError (·.toLogError)
    return Workload.Tracing.passes directives
  openFile path := (Workload.Files.openForWriting Workload.Files.commonRoot path).mapError (·.text)

end TaskScheduler
