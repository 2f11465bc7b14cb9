import TaskScheduler.Proofs.Pool.Run

/-
  Factories that keep their panics to themselves.

  `Contained`: no attempt to start a worker ends the operation that needs it. The factory of a new
  pool is of this kind.
-/
namespace TaskScheduler

/-- Every attempt starts a worker, or fails in a way that the pool catches. -/
def WorkerFactory.Contained (f : WorkerFactory) : Prop :=
  ∀ attempt index failure, f.start attempt index ≠ .unwound failure

theorem Host.startThread_ne_unwound (host : Host) (attempt : Nat) (name : String)
    (stackSize : Nat) (failure : Failure) :
    host.startThread attempt name stackSize ≠ .unwound failure := by
  unfold startThread
  split <;> nofun

namespace Pool

theorem ofConfig_contained (host : Host) (c : PoolConfig) :
    (ofConfig host c).factory.Contained :=
  fun _ _ failure => host.startThread_ne_unwound _ _ _ failure

end Pool

end TaskScheduler
