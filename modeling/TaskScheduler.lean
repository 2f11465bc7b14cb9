import TaskScheduler.Command.Serve
import TaskScheduler.Json.Reader
import TaskScheduler.Main
import TaskScheduler.Workload.OnLifecycle
import TaskScheduler.Workload.OnService
import TaskScheduler.Proofs.Pool.WorkConservation
import TaskScheduler.Proofs.Pool.Ledger
import TaskScheduler.Proofs.Pool.Starts
import TaskScheduler.Proofs.ExactlyOnce
import TaskScheduler.Proofs.OnePump
import TaskScheduler.Proofs.Cancellation
import TaskScheduler.Proofs.FailedSubmission
import TaskScheduler.Proofs.FixedRate
import TaskScheduler.Proofs.Disposal
import TaskScheduler.Proofs.Drain
import TaskScheduler.Proofs.RunQueue
import TaskScheduler.Proofs.FiringOrder
import TaskScheduler.Proofs.Release
import TaskScheduler.Proofs.Punctual
import TaskScheduler.Proofs.StartTimes
import TaskScheduler.Proofs.Accounting
import TaskScheduler.Proofs.Outcome
import TaskScheduler.Proofs.Retries
import TaskScheduler.Proofs.DrainLoop
import TaskScheduler.Proofs.LastRun
import TaskScheduler.Proofs.OpenPool
import TaskScheduler.Proofs.DelayQueue.SortedMap
import TaskScheduler.Proofs.DepthGauge
import TaskScheduler.Proofs.FaultIsolation
import TaskScheduler.Proofs.Deadline
import TaskScheduler.Proofs.Settings
import TaskScheduler.Proofs.Concern
import TaskScheduler.Proofs.Interruption
import TaskScheduler.Proofs.Reserved
import TaskScheduler.Proofs.Course
import TaskScheduler.Proofs.BatchRun
import TaskScheduler.Proofs.Toil
import TaskScheduler.Proofs.AllOrCancelled
import TaskScheduler.Proofs.Heartbeat
