import TaskScheduler.System.Pump
import TaskScheduler.System.Worker
import TaskScheduler.System.Call
import TaskScheduler.Service

/-
  The service as a transition system: one action is one section of one thread, or the passing of
  time, and any thread that has a section to carry out may be the next.
-/
namespace TaskScheduler

/-- What can happen next. -/
inductive Action (α : Type) where
  | passTime (time : Duration)
  /-- A client begins a call. -/
  | begin (request : Request)
  /-- The `index`-th call goes on; `choice` says which parked worker it wakes. -/
  | call (index choice : Nat)
  | pump (choice : Nat)
  /-- The idle time of the waiting pump is over. -/
  | pumpIdle
  /-- The hand-off of a record panics before the record reaches the pool. -/
  | pumpFault (failure : Failure)
  | worker (index : Nat)
  /-- The keep-alive time of a parked worker is over. -/
  | workerExpires (index : Nat)
  /-- The operating system refuses the thread of the pump that the `index`-th call is to start. -/
  | callRefused (index : Nat) (reason : String)
  /-- The operating system refuses the thread of the pump that a worker is to start. -/
  | workerRefused (index : Nat) (reason : String)
  /-- The body that a worker is in comes to its end. -/
  | bodyEnds (index : Nat) (result : Except Failure α)
  /-- The owner changes the core size of the pool. -/
  | setCoreSize (size : Nat)
  | prestart (count : Nat)
  | setFactory (factory : WorkerFactory)
  /-- A client asks for what only the owner may do. -/
  | forbidden (operation : OwnerOperation)

namespace System

variable {α : Type}

/-- The service after an action, or `none` if it cannot happen now. -/
def step (s : System α) : Action α → Option (System α)
  | .passTime time => some { s with now := s.now + time.nanos }
  | .begin request =>
    if request.handle?.all (s.handles.contains ·) then some (s.begin request) else none
  | .call index choice => s.callStep index choice
  | .pump choice => s.pumpStep choice
  | .pumpIdle => s.pumpIdle
  | .pumpFault failure => s.pumpFault failure
  | .worker index => s.workerStep index
  | .workerExpires index => s.workerExpires index
  | .callRefused index reason => s.callRefused index reason
  | .workerRefused index reason => s.workerRefused index reason
  | .bodyEnds index result => s.bodyEnds index (.ofExcept result)
  | .setCoreSize size => some (s.resize size).1
  | .prestart count => some (s.prestart count).1
  | .setFactory factory => some (s.setFactory factory)
  | .forbidden operation => some (s.refuse operation).1

/-- The states that a service can get into. -/
inductive Reachable : System α → Prop where
  | initial (host : Host) (name : String) (config : ServiceConfig) (clockEnd now : Instant) :
      Reachable (.initial host name config clockEnd now)
  | step {s s' : System α} (action : Action α) :
      Reachable s → s.step action = some s' → Reachable s'

end System

end TaskScheduler
