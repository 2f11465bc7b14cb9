import TaskScheduler.Duration

/-
  How a service is set up: its worker pool and its dispatcher.
-/
namespace TaskScheduler

/-- How the worker pool is set up. -/
structure PoolConfig where
  /-- The number of workers the pool grows to. -/
  coreSize : Nat
  /-- How long a worker beyond that number stays idle before it leaves. -/
  keepAlive : Duration
  /-- What the names of the workers start with. -/
  nameStem : String
  /-- The size of a worker's stack in bytes, where `0` leaves the choice to the platform. -/
  stackSize : Nat
deriving DecidableEq, Repr

namespace PoolConfig

/-- The core size for a machine that is left to itself: tasks often block, so it is generous. -/
def defaultCoreSize (processors : Nat) : Nat := max (processors * 4) 16

/-- The pool of a machine with the given number of processors. -/
def ofProcessors (processors : Nat) : PoolConfig where
  coreSize := defaultCoreSize processors
  keepAlive := .ofSeconds 60
  nameStem := "gg-sched-worker"
  stackSize := 0

/-- A pool of a given core size, of one worker at least. -/
def sized (processors coreSize : Nat) : PoolConfig :=
  { ofProcessors processors with coreSize := max coreSize 1 }

end PoolConfig

/-- How the dispatcher behaves. -/
structure DispatcherConfig where
  /-- The pump leaves after the delay queue has been empty for this long. -/
  idleTimeout : Duration
  /-- The number of failed hand-offs after which a task is rejected. -/
  retryLimit : UInt32
  /-- The wait after the first failed hand-off. -/
  retryBackoff : Duration
  /-- Whether one-shot tasks that are not yet due are run at disposal, and not cancelled. -/
  runDelayedOnShutdown : Bool
deriving DecidableEq, Repr

namespace DispatcherConfig

/-- The dispatcher of a service that is left to itself. -/
def standard : DispatcherConfig where
  idleTimeout := .ofSeconds 10
  retryLimit := 5
  retryBackoff := .ofMillis 10
  runDelayedOnShutdown := true

/-- No wait before a repeated hand-off is longer than this. -/
def maxBackoff : Duration := .ofSeconds 1

/-- How many times the first wait is waited after the given number of failures: a power of two
that stops at the largest 32-bit number. -/
def backoffFactor (failures : Nat) : Nat :=
  if failures ≤ 32 then Nat.pow 2 (failures - 1) else 4294967295

/-- The wait after the given number of failed hand-offs: it doubles each time, up to a second. -/
def backoffAfter (c : DispatcherConfig) (failures : Nat) : Duration :=
  min (c.retryBackoff.saturatingMul (backoffFactor failures)) maxBackoff

end DispatcherConfig

/-- How a service is set up. -/
structure ServiceConfig where
  pool : PoolConfig
  dispatcher : DispatcherConfig
deriving DecidableEq, Repr

/-- The service of a machine with the given number of processors. -/
def ServiceConfig.ofProcessors (processors : Nat) : ServiceConfig where
  pool := .ofProcessors processors
  dispatcher := .standard

end TaskScheduler
