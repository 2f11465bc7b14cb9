/-
  What the service counts about itself.

  The two gauges are kept by the structures they describe: the number of live threads by the pool,
  the depth of the delay queue by the queue.
-/
namespace TaskScheduler

/-- How a task came to the service. -/
inductive SubmissionKind where
  | immediate
  | delayed
  | fixedRate
  | fixedDelay
deriving DecidableEq, Repr

/-- How a task ended other than by a cancellation. -/
inductive FinishKind where
  | done
  | failed
  | rejected
deriving DecidableEq, Repr

def SubmissionKind.tag : SubmissionKind → String
  | immediate => "immediate"
  | delayed => "delayed"
  | fixedRate => "fixed_rate"
  | fixedDelay => "fixed_delay"

def FinishKind.tag : FinishKind → String
  | done => "done"
  | failed => "failed"
  | rejected => "rejected"

/-- Counts of what happened, and of the times that were measured. -/
structure Metrics where
  submittedImmediate : Nat := 0
  submittedDelayed : Nat := 0
  submittedFixedRate : Nat := 0
  submittedFixedDelay : Nat := 0
  finishedDone : Nat := 0
  finishedFailed : Nat := 0
  finishedRejected : Nat := 0
  cancelled : Nat := 0
  handoffFailures : Nat := 0
  /-- How often the time between trigger and start was measured. -/
  lagSamples : Nat := 0
  /-- How often the running time of a body was measured. -/
  executionSamples : Nat := 0
deriving DecidableEq, Repr

namespace Metrics

def countSubmitted (m : Metrics) : SubmissionKind → Metrics
  | .immediate => { m with submittedImmediate := m.submittedImmediate + 1 }
  | .delayed => { m with submittedDelayed := m.submittedDelayed + 1 }
  | .fixedRate => { m with submittedFixedRate := m.submittedFixedRate + 1 }
  | .fixedDelay => { m with submittedFixedDelay := m.submittedFixedDelay + 1 }

def countFinished (m : Metrics) : FinishKind → Metrics
  | .done => { m with finishedDone := m.finishedDone + 1 }
  | .failed => { m with finishedFailed := m.finishedFailed + 1 }
  | .rejected => { m with finishedRejected := m.finishedRejected + 1 }

def countCancelled (m : Metrics) : Metrics := { m with cancelled := m.cancelled + 1 }

def countHandoffFailure (m : Metrics) : Metrics :=
  { m with handoffFailures := m.handoffFailures + 1 }

def sampleLag (m : Metrics) : Metrics := { m with lagSamples := m.lagSamples + 1 }

def sampleExecution (m : Metrics) : Metrics :=
  { m with executionSamples := m.executionSamples + 1 }

/-- All tasks accepted, over all kinds. -/
def submitted (m : Metrics) : Nat :=
  m.submittedImmediate + m.submittedDelayed + m.submittedFixedRate + m.submittedFixedDelay

/-- All tasks that ended other than by a cancellation. -/
def finished (m : Metrics) : Nat := m.finishedDone + m.finishedFailed + m.finishedRejected

/-- The counters that have counted something, by the names they are published under. -/
def counters (m : Metrics) : List (String × Nat) :=
  let submitted (k : SubmissionKind) :=
    "gg_sched_tasks_submitted_total\x7bkind=" ++ k.tag ++ "\x7d"
  let finished (k : FinishKind) :=
    "gg_sched_tasks_finished_total\x7boutcome=" ++ k.tag ++ "\x7d"
  [(submitted .immediate, m.submittedImmediate), (submitted .delayed, m.submittedDelayed),
    (submitted .fixedRate, m.submittedFixedRate), (submitted .fixedDelay, m.submittedFixedDelay),
    (finished .done, m.finishedDone), (finished .failed, m.finishedFailed),
    (finished .rejected, m.finishedRejected),
    ("gg_sched_tasks_cancelled_total", m.cancelled),
    ("gg_sched_transfer_failures_total", m.handoffFailures)].filter (·.2 != 0)

/-- The measured times, by the names they are published under. -/
def samples (m : Metrics) : List (String × Nat) :=
  [("gg_sched_dispatch_lag_seconds", m.lagSamples),
    ("gg_sched_execution_seconds", m.executionSamples)].filter (·.2 != 0)

/-- The name of the gauge of live worker threads. -/
def poolThreadsGauge : String := "gg_sched_pool_threads"

/-- The name of the gauge of the delay queue's depth. -/
def queueDepthGauge : String := "gg_sched_delay_queue_depth"

/-- What a published number measures, in which unit, and what it is called. -/
structure Description where
  described : String
  name : String
  unit : String
  text : String
deriving DecidableEq, Repr

/-- The descriptions of everything published, in the order of their registration. -/
def descriptions : List Description := [
  ⟨"counter", "gg_sched_tasks_submitted_total", "count", "Tasks accepted, by kind"⟩,
  ⟨"counter", "gg_sched_tasks_finished_total", "count",
    "Tasks that reached a final outcome, by outcome"⟩,
  ⟨"counter", "gg_sched_tasks_cancelled_total", "count",
    "Tasks cancelled by callers or by shutdown"⟩,
  ⟨"counter", "gg_sched_transfer_failures_total", "count",
    "Failed hand-offs from the delay queue to the backend pool"⟩,
  ⟨"gauge", poolThreadsGauge, "count", "Live backend worker threads"⟩,
  ⟨"gauge", queueDepthGauge, "count", "Tasks waiting in the delay queue"⟩,
  ⟨"histogram", "gg_sched_dispatch_lag_seconds", "seconds",
    "Actual start time minus trigger time"⟩,
  ⟨"histogram", "gg_sched_execution_seconds", "seconds", "Task body execution time"⟩]

end Metrics

end TaskScheduler
