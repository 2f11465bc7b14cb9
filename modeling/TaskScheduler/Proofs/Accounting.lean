import Mathlib.Data.List.Induction
import Mathlib.Data.List.Perm.Basic
import TaskScheduler.Proofs.Admission
import TaskScheduler.Proofs.Books

/-
  Every accepted task is counted when it comes and when it ends.

  `Reachable.books` says what has been counted. Once no call is half-way (`Settled`), the counters
  of tasks that came and of tasks that ended differ by the accepted records that are still to end,
  and by those that have ended though their submission was not accepted (`strays`). If every pump
  that is asked for can be started, and no factory lets a panic through, there are no strays: by
  `Vouched`, nothing ends that was not admitted. `tasks_are_accounted_for` puts this together.
-/
namespace TaskScheduler

/-- The record of the call is in a queue, and has to be counted as accepted. -/
def Duty.entered : Duty → Bool
  | launching (some _) | counting _ => true
  | _ => false

/-- The call is between getting a record in and counting it as submitted, or between cancelling a
record and counting that. -/
def Call.halfway {α : Type} (call : Call α) : Bool := call.duty.entered || call.uncounted

namespace System

variable {α : Type} {s : System α} {r : Ref}

/-- No call is half-way through a submission or a cancellation. -/
def Settled (s : System α) : Prop := ∀ call ∈ s.calls, call.halfway = false

instance (s : System α) : Decidable (Settled s) :=
  inferInstanceAs (Decidable (∀ call ∈ s.calls, call.halfway = false))

theorem Settled.uncounted (h : Settled s) : s.uncounted = 0 := by
  refine List.countP_eq_zero.mpr fun call hcall huncounted => ?_
  have hnot := h call hcall
  rw [Call.halfway, huncounted, Bool.or_true] at hnot
  cases hnot

/-- Whatever has been admitted is accepted by now. -/
theorem Settled.accepted (h : Settled s) (hr : s.Admitted r) : r ∈ s.accepted := by
  rcases hr with haccepted | howing
  · exact haccepted
  · obtain ⟨call, hcall, hadmits⟩ := List.countP_pos_iff.mp howing
    have hnot := h call hcall
    have hentered : call.duty.entered = true := by
      generalize call.duty = duty at hadmits
      cases duty with
      | launching record => cases record <;> first | rfl | cases hadmits
      | counting r' => rfl
      | _ => cases hadmits
    rw [Call.halfway, hentered, Bool.true_or] at hnot
    cases hnot

/-- The terminal records, found by their places. -/
theorem finals_eq_range (s : System α) :
    s.finals = (List.range s.records.length).countP s.isFinal := by
  have hcount : ∀ records : List (Record α), records.countP (·.isFinal) =
      (List.range records.length).countP fun r => (records[r]?).any (·.isFinal) := by
    intro records
    -- A record at the end leaves the places of those before it alone.
    induction records using List.reverseRecOn with
    | nil => rfl
    | append_singleton before x ih =>
      rw [List.countP_append, List.length_append, List.length_singleton, List.range_succ,
        List.countP_append, List.countP_singleton, List.countP_singleton, ih]
      congr 1
      · refine List.countP_congr fun r hr => ?_
        rw [List.getElem?_append_left (List.mem_range.mp hr)]
      · rw [List.getElem?_concat_length]
        rfl
  rw [finals, hcount]
  refine List.countP_congr fun r _ => ?_
  rw [System.isFinal, state?, record?]
  cases s.records[r]? <;> rfl

/-- The terminal records whose submission has not been accepted. -/
def strays (s : System α) : Nat :=
  (List.range s.records.length).countP fun r => s.isFinal r && !s.accepted.contains r

/-- The terminal records are the terminal ones among the accepted, and the strays. -/
theorem Reachable.finals_eq (hs : Reachable s) :
    s.finals = s.accepted.countP s.isFinal + s.strays := by
  have hsplit : (List.range s.records.length).countP s.isFinal =
      (List.range s.records.length).countP (fun r => s.isFinal r && s.accepted.contains r) +
        s.strays := by
    refine countP_eq_add (fun r => ?_) _
    cases s.isFinal r <;> cases s.accepted.contains r <;> rfl
  have haccepted : (List.range s.records.length).countP
      (fun r => s.isFinal r && s.accepted.contains r) = s.accepted.countP s.isFinal := by
    rw [List.countP_eq_length_filter, List.countP_eq_length_filter]
    refine List.Perm.length_eq ((List.perm_ext_iff_of_nodup ?_ ?_).mpr fun r => ?_)
    · exact List.nodup_range.filter _
    · exact hs.accepted_nodup.filter _
    · rw [List.mem_filter, List.mem_filter, List.mem_range, Bool.and_eq_true, List.contains_iff_mem]
      constructor
      · exact fun ⟨_, hfinal, hmem⟩ => ⟨hmem, hfinal⟩
      · exact fun ⟨hmem, hfinal⟩ => ⟨(hs.held r).known (.inr (.inl hmem)), hfinal, hmem⟩
  rw [finals_eq_range, hsplit, haccepted]

theorem Settled.strays_eq_zero (h : Settled s) (hvouched : ∀ r, Vouched s r) : s.strays = 0 := by
  refine List.countP_eq_zero.mpr fun r hr hstray => ?_
  obtain ⟨hfinal, hnot⟩ := Bool.and_eq_true_iff.mp hstray
  have hmem := h.accepted ((hvouched r).moved (List.mem_range.mp hr) (isPending_of_final hfinal))
  rw [List.contains_iff_mem.mpr hmem] at hnot
  cases hnot

/-- Whenever no call is half-way through a submission or a cancellation, each record was accepted
once, and the tasks that were counted as submitted, less those that were counted as finished and as
cancelled, are as many as the accepted records that are not terminal, less the terminal records that
were not accepted. In a terminated service the tasks that were counted as finished and as cancelled
are those that were submitted, and again the terminal records that were not accepted. There are none
of these, as long as every factory starts its worker or fails inside the pool, if the thread of the
pump can have its name and none is refused. -/
theorem tasks_are_accounted_for (host : Host) (name : String) (config : ServiceConfig)
    (clockEnd now : Instant) {actions : List (Action α)}
    (hrun : (System.initial host name config clockEnd now).exec actions = some s)
    (hsettled : Settled s) :
    s.accepted.Nodup ∧
      (s.metrics.submitted : Int) - s.metrics.finished - s.metrics.cancelled =
        (s.accepted.countP fun r => !s.isFinal r) - s.strays ∧
      (s.lifecycle = .terminated →
        s.metrics.submitted + s.strays = s.metrics.finished + s.metrics.cancelled) ∧
      ((∀ a ∈ actions, a.Contained) → nameFault? (name ++ "-dispatcher") = none →
        (∀ a ∈ actions, a.refusesPump = false) → s.strays = 0) := by
  have hs : Reachable s := (Reachable.initial host name config clockEnd now).exec hrun
  obtain ⟨hsubmitted, hended⟩ := hs.books
  rw [hsettled.uncounted, Nat.add_zero, hs.finals_eq] at hended
  have hsplit := List.length_eq_countP_add_countP s.isFinal (l := s.accepted)
  have hleft : (s.accepted.countP fun r => !s.isFinal r) =
      s.accepted.countP fun r => decide ¬s.isFinal r = true :=
    List.countP_congr fun r _ => by cases s.isFinal r <;> decide
  refine ⟨hs.accepted_nodup, by omega, fun hlife => ?_, fun hcontained hname hactions => ?_⟩
  · have hnone : (s.accepted.countP fun r => !s.isFinal r) = 0 := by
      refine List.countP_eq_zero.mpr fun r hr => ?_
      rw [hs.accepted_final hlife hr]
      exact Bool.false_ne_true
    omega
  · refine hsettled.strays_eq_zero ((Steady.initial host name config clockEnd now).exec_vouched
      (.initial host name config clockEnd now) ?_ rfl hcontained hactions hrun)
    exact hname

/-- Three records come to different ends: one is cancelled while it runs, one is rejected after its
hand-off has panicked, and one is run to its end while the service goes on. -/
def mixedRun : List (Action Unit) :=
  [.setFactory { start := fun _ _ => .started "worker" },
    .begin .submit, .call 0 0, .call 0 0, .call 0 0,
    .worker 0, .worker 0, .worker 0,
    .begin (.cancel 0 true), .call 1 0, .call 1 0,
    .bodyEnds 0 (.ok ()), .worker 0,
    .begin (.schedule (.ofMillis 0)), .call 2 0, .call 2 0, .call 2 0, .call 2 0,
    .pump 0, .pumpFault ⟨.literal "fault"⟩, .pump 0, .pump 0, .pump 0, .pump 0,
    .begin .submit, .call 3 0, .call 3 0, .call 3 0,
    .worker 0, .worker 0, .worker 0, .bodyEnds 0 (.ok ()), .worker 0,
    .begin .dispose, .call 4 0, .call 4 0,
    .pump 0, .pump 0, .worker 0, .worker 1, .pump 0, .pump 0]

/-- A service that rejects a record at the first failed hand-off. -/
def singleAttempt : ServiceConfig :=
  { ServiceConfig.ofProcessors 1 with
    dispatcher := { DispatcherConfig.standard with retryLimit := 1 } }

theorem mixed_run_is_accounted_for :
    ∃ s : System Unit,
      (System.initial .lenient "service" singleAttempt 100 0).exec mixedRun = some s ∧
      s.lifecycle = .terminated ∧ s.metrics.submitted = 3 ∧ s.metrics.finishedDone = 1 ∧
      s.metrics.finishedRejected = 1 ∧ s.metrics.cancelled = 1 ∧
      s.metrics.submitted = s.metrics.finished + s.metrics.cancelled := by
  have hruns : ((System.initial .lenient "service" singleAttempt 100 0).exec mixedRun).any (fun s =>
      decide (Settled s ∧ s.lifecycle = .terminated ∧ s.metrics.submitted = 3 ∧
        s.metrics.finishedDone = 1 ∧ s.metrics.finishedRejected = 1 ∧
        s.metrics.cancelled = 1)) = true := by
    decide +kernel
  simp only [Option.any_eq_true, decide_eq_true_eq] at hruns
  obtain ⟨s, hrun, hsettled, hlife, hsubmitted, hdone, hrejected, hcancelled⟩ := hruns
  obtain ⟨-, -, hterminated, hnone⟩ :=
    tasks_are_accounted_for .lenient "service" singleAttempt 100 0 hrun hsettled
  have haccounted := hterminated hlife
  rw [hnone (by simp [mixedRun, Action.Contained, WorkerFactory.Contained]) (by decide +kernel)
    (by simp [mixedRun, Action.refusesPump])] at haccounted
  exact ⟨s, hrun, hlife, hsubmitted, hdone, hrejected, hcancelled, haccounted⟩

/-- After `takenMeanwhile` the task that was scheduled next is counted as submitted, and the run of
the first one ends. Then the service is disposed of. -/
def takenToTheEnd : List (Action Unit) :=
  takenMeanwhile ++
    [.call 1 0, .bodyEnds 0 (.ok ()), .worker 0, .begin .dispose, .call 2 0, .call 2 0,
      .pump 0, .pump 0, .pump 0, .pump 0, .worker 0, .worker 0, .worker 0, .bodyEnds 0 (.ok ()),
      .worker 0, .pump 0, .pump 0, .worker 0, .worker 1, .pump 0, .pump 0]

/-- A service is terminated that has counted two tasks as finished, but only one as submitted: the
submission of the other one failed since no pump could be started for it, or since a panic of the
factory went through it. -/
theorem unsubmitted_task_is_counted :
    (∃ s : System Unit,
      (System.initial .lenient "service" (.ofProcessors 1) 10000000000 0).exec takenToTheEnd =
        some s ∧
      (∀ a ∈ takenToTheEnd, a.Contained) ∧ Settled s ∧ s.lifecycle = .terminated ∧
      s.metrics.submitted = 1 ∧ s.metrics.finished = 2 ∧ s.metrics.cancelled = 0) ∧
    ∃ s : System Unit, (System.initial .lenient "service" (.ofProcessors 1) 100 0).exec
        (submittedInVain (.unwinding (.literal "no threads")) ++ submittedNext ++
          [.call 1 0, .bodyEnds 0 (.ok ()), .worker 0, .worker 0, .worker 0, .worker 0,
            .bodyEnds 0 (.ok ()), .worker 0]) = some s ∧
      Settled s ∧ s.accepted = [1] ∧ s.isFinal 1 = true ∧
      s.metrics.submitted = 1 ∧ s.metrics.finished = 2 ∧ s.metrics.cancelled = 0 := by
  have hrefused : ((System.initial .lenient "service" (.ofProcessors 1) 10000000000 0).exec
      takenToTheEnd).any (fun s => decide (Settled s ∧ s.lifecycle = .terminated ∧
        s.metrics.submitted = 1 ∧ s.metrics.finished = 2 ∧ s.metrics.cancelled = 0)) = true := by
    decide +kernel
  simp only [Option.any_eq_true, decide_eq_true_eq] at hrefused
  obtain ⟨s, hrun, hs⟩ := hrefused
  have hcontained : ∀ a ∈ takenToTheEnd, a.Contained := by
    simp [takenToTheEnd, takenMeanwhile, Action.Contained, WorkerFactory.Contained]
  have hunwound : ((System.initial .lenient "service" (.ofProcessors 1) 100 0).exec
      (submittedInVain (.unwinding (.literal "no threads")) ++ submittedNext ++
        [.call 1 0, .bodyEnds 0 (.ok ()), .worker 0, .worker 0, .worker 0, .worker 0,
          .bodyEnds 0 (.ok ()), .worker 0])).any (fun s => decide (Settled s ∧
      s.accepted = [1] ∧ s.isFinal 1 = true ∧ s.metrics.submitted = 1 ∧ s.metrics.finished = 2 ∧
        s.metrics.cancelled = 0)) = true := by
    decide +kernel
  simp only [Option.any_eq_true, decide_eq_true_eq] at hunwound
  exact ⟨⟨s, hrun, hcontained, hs⟩, hunwound⟩

end System

end TaskScheduler
