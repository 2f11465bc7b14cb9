import TaskScheduler.Failure
import TaskScheduler.Lifecycle
import TaskScheduler.Duration.Text

/-
  The errors of the service, of a task and of the worker pool, with their texts.
-/
namespace TaskScheduler

open Text

/-- What a thread is for. -/
inductive ThreadRole where
  | worker
  | dispatcher
deriving DecidableEq, Repr, Inhabited

def ThreadRole.text : ThreadRole → String
  | worker => "worker"
  | dispatcher => "dispatcher"

/-- Why a call on the service failed. -/
inductive ServiceError where
  | rejected (scheduler : String) (state : Lifecycle)
  | forbidden (reason : String)
  | invalidArgument (reason : String)
  | threadSpawn (role : ThreadRole) (reason : String)
deriving DecidableEq, Repr

namespace ServiceError

/-- The service no longer accepts work. -/
def isRefusal : ServiceError → Bool
  | rejected .. => true
  | _ => false

theorem isRefusal_iff {e : ServiceError} :
    e.isRefusal = true ↔ ∃ scheduler state, e = rejected scheduler state := by
  cases e <;> simp [isRefusal]

/-- The error in words. -/
def text : ServiceError → String
  | rejected scheduler state =>
    "Submission rejected: scheduler '" ++ scheduler ++ "' is " ++ state.text
  | forbidden reason => "Policy violation: " ++ reason
  | invalidArgument reason => "Invalid argument: " ++ reason
  | threadSpawn role reason => "Failed to spawn " ++ role.text ++ " thread: " ++ reason

/-- The error as a value is shown to a programmer. -/
def debugText : ServiceError → String
  | rejected scheduler state =>
    "Rejected \x7b scheduler: " ++ quoted scheduler ++ ", state: " ++ state.constantName ++ " \x7d"
  | forbidden reason => "PolicyViolation(" ++ quoted reason ++ ")"
  | invalidArgument reason => "InvalidArgument(" ++ quoted reason ++ ")"
  | threadSpawn role reason =>
    "ThreadSpawn \x7b role: " ++ quoted role.text ++ ", reason: " ++ quoted reason ++ " \x7d"

end ServiceError

/-- Why a task has no value, or why none can be had from its handle. -/
inductive TaskError where
  | cancelled
  | failed (failure : Failure)
  | timeout (after : Duration)
  | rejected (reason : String)
  | outcomeTaken
deriving DecidableEq, Repr

namespace TaskError

def isCancellation : TaskError → Bool
  | cancelled => true
  | _ => false

/-- The captured panic, if the body panicked. -/
def failure? : TaskError → Option Failure
  | failed f => some f
  | _ => none

/-- The error in words. -/
def text : TaskError → String
  | cancelled => "Task was cancelled"
  | failed f => "Task failed: " ++ f.text
  | timeout after => "Timed out after " ++ after.text ++ " waiting for task outcome"
  | rejected reason => "Task rejected by backend pool: " ++ reason
  | outcomeTaken => "Task outcome was already taken"

/-- The error as a value is shown to a programmer. -/
def debugText : TaskError → String
  | cancelled => "Cancelled"
  | failed f => "Failed(" ++ f.debugText ++ ")"
  | timeout after => "Timeout(" ++ after.text ++ ")"
  | rejected reason => "Rejected(" ++ quoted reason ++ ")"
  | outcomeTaken => "OutcomeTaken"

end TaskError

/-- Why the worker pool refused a call. -/
inductive PoolError where
  | shutdown
  | spawn (reason : String)
deriving DecidableEq, Repr

/-- The error in words. -/
def PoolError.text : PoolError → String
  | shutdown => "Backend pool is shut down"
  | spawn reason => "Failed to spawn worker thread: " ++ reason

end TaskScheduler
