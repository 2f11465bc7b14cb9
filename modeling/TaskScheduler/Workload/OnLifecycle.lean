import TaskScheduler.Lifecycle
import TaskScheduler.Json

/-
  Workloads on a lifecycle by itself.
-/
namespace TaskScheduler.Workload

/-- A step of a workload on a lifecycle. -/
inductive LifecycleStep where
  | leaveRunning
  | conclude
  /-- Waits for the end for a time in which nobody else does anything. -/
  | await
  /-- Waits for the end while another thread brings it about. -/
  | awaitWhile
  | accepting

def lifecycleStep (l : Lifecycle) : LifecycleStep → Lifecycle × Json
  | .leaveRunning =>
    let (l, first) := l.leaveRunning
    (l, .bool first)
  | .conclude => (l.conclude, .null)
  | .await => (l, .bool l.hasEnded)
  | .awaitWhile =>
    let l := l.leaveRunning.1.conclude
    (l, .bool l.hasEnded)
  | .accepting => (l, .bool l.acceptsWork)

/-- The report of a workload on a lifecycle. -/
def runLifecycle (steps : List LifecycleStep) : Json :=
  let (_, reports) := steps.foldl
    (fun (l, reports) s =>
      let (l, r) := lifecycleStep l s
      (l, Json.object [("r", r), ("state", .string l.tag), ("text", .string l.text),
        ("accepting", .bool l.acceptsWork)] :: reports))
    (Lifecycle.running, [])
  .object [("steps", .array reports.reverse)]

end TaskScheduler.Workload
