import TaskScheduler.Config
import TaskScheduler.Log
import TaskScheduler.Text.Blank
import TaskScheduler.Text.Numeral

/-
  Settings taken from environment variables.

  A variable that is missing, is not UTF-8 or cannot be read leaves its setting at the default;
  after that every number is moved into its range.
-/
namespace TaskScheduler

/-- The bytes of each environment variable that is set. -/
abbrev Environment := String → Option ByteArray

namespace Environment

/-- The variable of a given name, if it is set and is UTF-8. -/
def text? (env : Environment) (name : String) : Option String :=
  (env name).bind String.fromUTF8?

/-- The variable as a number below `bound`, blanks around it ignored. -/
def number (env : Environment) (bound : Nat) (name : String) (default : Nat) : Nat :=
  ((env.text? name).bind fun v => Text.Numeral.parseBelow? bound (Text.trim v)).getD default

/-- The truth value of a word. -/
def truth? (word : String) : Option Bool :=
  if word ∈ ["1", "true", "yes", "on"] then some true
  else if word ∈ ["0", "false", "no", "off"] then some false
  else none

/-- The variable as a truth value, blanks around it and the case of its letters ignored. -/
def flag (env : Environment) (name : String) (default : Bool) : Bool :=
  ((env.text? name).bind fun v => truth? (Text.toLowerAscii (Text.trim v))).getD default

end Environment

/-- `n` moved into the range from `low` to `high`. -/
def clamp (low high n : Nat) : Nat := max low (min high n)

/-- Everything that the environment decides. -/
structure Settings where
  service : ServiceConfig
  shutdownTimeout : Duration
  log : LogConfig
deriving DecidableEq, Repr

namespace Settings

/-- The settings of a machine with the given number of processors and no variables set. -/
def standard (processors : Nat) : Settings where
  service := .ofProcessors processors
  shutdownTimeout := .ofSeconds 30
  log := .standard

/-- Stacks are of the platform's size or of 64 KiB at least. -/
def stackSizeFor (requested : Nat) : Nat := if requested = 0 then 0 else max requested (64 * 1024)

def loadPool (processors : Nat) (env : Environment) : PoolConfig :=
  let base := PoolConfig.ofProcessors processors
  { base with
    coreSize := clamp 1 4096 (env.number wordBound "GG_SCHED_CORE_POOL_SIZE" base.coreSize)
    keepAlive := .ofSeconds
      (max 1 (env.number wordBound "GG_SCHED_KEEP_ALIVE_SECS" base.keepAlive.seconds))
    stackSize := stackSizeFor (env.number wordBound "GG_SCHED_THREAD_STACK_SIZE" base.stackSize) }

def loadDispatcher (env : Environment) : DispatcherConfig :=
  let base := DispatcherConfig.standard
  { idleTimeout := .ofMillis
      (max 10 (env.number wordBound "GG_SCHED_PUMP_IDLE_MS" base.idleTimeout.millis))
    retryLimit := .ofNat
      (clamp 1 100 (env.number UInt32.size "GG_SCHED_TRANSFER_RETRIES" base.retryLimit.toNat))
    retryBackoff := .ofMillis
      (clamp 1 1000 (env.number wordBound "GG_SCHED_TRANSFER_BACKOFF_MS" base.retryBackoff.millis))
    runDelayedOnShutdown :=
      env.flag "GG_SCHED_RUN_DELAYED_ON_SHUTDOWN" base.runDelayedOnShutdown }

def loadLog (env : Environment) : LogConfig :=
  let base := LogConfig.standard
  { base with
    format :=
      ((env.text? "GG_SCHED_LOG_FORMAT").bind (LogFormat.parse · |>.toOption)).getD base.format
    level := ((env.text? "GG_SCHED_LOG_LEVEL").filter (Text.trim · ≠ "")).getD base.level }

/-- The settings of a machine with the given number of processors and variables. -/
def load (processors : Nat) (env : Environment) : Settings where
  service := { pool := loadPool processors env, dispatcher := loadDispatcher env }
  shutdownTimeout := .ofSeconds (max 1 (env.number wordBound "GG_SCHED_SHUTDOWN_TIMEOUT" 30))
  log := loadLog env

end Settings

end TaskScheduler
