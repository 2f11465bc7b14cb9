import TaskScheduler.Config.Environment
import TaskScheduler.Json

/-
  The settings that are in effect, as a flat list of fields that is printed for the user.
-/
namespace TaskScheduler

/-- The settings in effect, each in the unit of the variable that sets it. -/
structure ConfigSummary where
  corePoolSize : Nat
  keepAliveSecs : Nat
  threadNameStem : String
  threadStackSize : Nat
  pumpIdleMs : Nat
  transferRetryLimit : Nat
  transferRetryBackoffMs : Nat
  runDelayedOnShutdown : Bool
  shutdownTimeoutSecs : Nat
  logFormat : String
  logLevel : String
deriving DecidableEq, Repr

/-- The summary of given settings. -/
def Settings.summary (s : Settings) : ConfigSummary where
  corePoolSize := s.service.pool.coreSize
  keepAliveSecs := s.service.pool.keepAlive.seconds
  threadNameStem := s.service.pool.nameStem
  threadStackSize := s.service.pool.stackSize
  pumpIdleMs := s.service.dispatcher.idleTimeout.millis % wordBound
  transferRetryLimit := s.service.dispatcher.retryLimit.toNat
  transferRetryBackoffMs := s.service.dispatcher.retryBackoff.millis % wordBound
  runDelayedOnShutdown := s.service.dispatcher.runDelayedOnShutdown
  shutdownTimeoutSecs := s.shutdownTimeout.seconds
  logFormat := s.log.format.tag
  logLevel := s.log.level

/-- The summary as a JSON object, in the order in which it is printed. -/
def ConfigSummary.toJson (c : ConfigSummary) : Json :=
  .object [
    ("core_pool_size", .nat c.corePoolSize),
    ("keep_alive_secs", .nat c.keepAliveSecs),
    ("thread_name_prefix", .string c.threadNameStem),
    ("thread_stack_size", .nat c.threadStackSize),
    ("pump_idle_ms", .nat c.pumpIdleMs),
    ("transfer_retry_limit", .nat c.transferRetryLimit),
    ("transfer_retry_backoff_ms", .nat c.transferRetryBackoffMs),
    ("run_delayed_on_shutdown", .bool c.runDelayedOnShutdown),
    ("shutdown_timeout_secs", .nat c.shutdownTimeoutSecs),
    ("log_format", .string c.logFormat),
    ("log_level", .string c.logLevel)]

end TaskScheduler
