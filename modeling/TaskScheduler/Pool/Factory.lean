import TaskScheduler.Failure
import TaskScheduler.Text.Numeral

/-
  Threads and worker factories: what comes of an attempt to start a thread.

  A name with a zero byte in it ends the attempt in a panic. Whether a thread with a possible name
  is started is up to the operating system.
-/
namespace TaskScheduler

/-! ## Threads -/

/-- The operating system, as far as it starts threads. -/
structure Host where
  /-- Why the system refuses a thread, if it does: that may depend on how often its factory was
  asked before, and on the bytes of stack that the thread is to have, where `0` leaves them to the
  system. -/
  refusal? : (attempt stackSize : Nat) → Option String

/-- A system that refuses no thread. -/
def Host.lenient : Host where
  refusal? _ _ := none

/-- The panic of an attempt to start a thread under a name that no thread can have. -/
def nameFault? (name : String) : Option Failure :=
  let bytes := name.toUTF8.toList.map (·.toNat)
  (bytes.findIdx? (· == 0)).map fun i =>
    ⟨.owned ("thread name may not contain interior null bytes: NulError(" ++
      Text.Numeral.ofNat i ++ ", [" ++ ", ".intercalate (bytes.map Text.Numeral.ofNat) ++ "])")⟩

/-! ## Factories -/

/-- What came of an attempt to start a worker. -/
inductive StartOutcome where
  /-- The worker runs on a thread of this name. -/
  | started (name : String)
  | refused (reason : String)
  /-- The factory panicked, and the panic was caught. -/
  | panicked (failure : Failure)
  /-- A panic went through the whole operation that needed the worker. -/
  | unwound (failure : Failure)
deriving DecidableEq, Repr

/-- Tries to start a thread for a worker. -/
def Host.startThread (host : Host) (attempt : Nat) (name : String) (stackSize : Nat) :
    StartOutcome :=
  match nameFault? name, host.refusal? attempt stackSize with
  | some failure, _ => .panicked failure
  | none, some reason => .refused reason
  | none, none => .started name

/-- Starts workers. The outcome may depend on how often the factory was asked before, and on the
index of the worker. -/
structure WorkerFactory where
  start : (attempt index : Nat) → StartOutcome
  /-- How often the factory has been asked. -/
  attempts : Nat := 0

namespace WorkerFactory

/-- The outcome of the next attempt. -/
def next (f : WorkerFactory) (index : Nat) : StartOutcome := f.start f.attempts index

/-- The factory after one more attempt. -/
def asked (f : WorkerFactory) : WorkerFactory := { f with attempts := f.attempts + 1 }

/-- The name of a worker: a stem and the index. -/
def workerName (stem : String) (index : Nat) : String := stem ++ "-" ++ Text.Numeral.ofNat index

/-- Starts every worker on a thread of its own, under a stem and its index. -/
def ofHost (host : Host) (stem : String) (stackSize : Nat := 0) : WorkerFactory where
  start attempt index := host.startThread attempt (workerName stem index) stackSize

/-- Starts no worker. -/
def refusing (reason : String) : WorkerFactory where
  start _ _ := .refused reason

/-- Panics at every attempt. -/
def panicking (payload : Payload) : WorkerFactory where
  start _ _ := .panicked ⟨payload⟩

/-- Ends every operation that needs a worker with a panic. -/
def unwinding (payload : Payload) : WorkerFactory where
  start _ _ := .unwound ⟨payload⟩

end WorkerFactory

end TaskScheduler
