import TaskScheduler.Proofs.ExactlyOnce
import TaskScheduler.Proofs.Misnamed

/-
  What becomes of a record whose submission has failed.

  A record that is in no queue, in no hand, and that no call carries, gets nowhere any more, and its
  body is not started (`Abandoned`). A submission that is refused leaves its record so, whatever the
  factory does: the pool takes a record out of the run queue again when it refuses it. It is
  different with a panic that goes through the whole submission. Such a panic leaves the record in
  the run queue, and the next worker takes it up.
-/
namespace TaskScheduler

/-- The record whose submission has been refused, for another reason than that no pump could be
started for it. -/
def Submission.lost? : Submission → Option Ref
  | explaining r => r
  | failed _ (.threadSpawn .dispatcher _) => none
  | failed r _ => r
  | _ => none

namespace System

variable {α : Type} {s s' t u : System α} {a : Action α} {duty duty' : Duty} {r : Ref} {i : Nat}

/-! ## Records that are nowhere -/

/-- The record is in no queue and in no hand, and no call carries it. -/
structure Abandoned (s : System α) (r : Ref) : Prop where
  made : r < s.records.length
  nowhere : s.places r + s.arriving r = 0

theorem Abandoned.move (h : Abandoned s r) (hs : Reachable s) (hmove : Move s a t) :
    Abandoned t r where
  made := Nat.lt_of_lt_of_le h.made hmove.keeps.length_le
  nowhere := by
    have hnowhere := h.nowhere
    rcases (hmove.passes hs.numbered hs.attended r).bounded with hle | ⟨-, ⟨hnew, -⟩ | hdoubles⟩
    · omega
    · exact absurd hnew (Nat.ne_of_lt h.made)
    · have hheld := hdoubles.held
      omega

theorem Abandoned.step (h : Abandoned s r) (hs : Reachable s) (hstep : s.step a = some s') :
    Abandoned s' r := by
  refine step_of_move (P := fun s => Abandoned s r) (fun u => ?_) (h.move hs) hstep
  exact propext ⟨fun h => ⟨h.made, h.nowhere⟩, fun h => ⟨h.made, h.nowhere⟩⟩

theorem Abandoned.exec {actions : List (Action α)} (h : Abandoned s r) (hs : Reachable s)
    (hrun : s.exec actions = some t) : Abandoned t r := by
  have hkept : Reachable t ∧ Abandoned t r := by
    refine exec_keeps (P := fun s => Reachable s ∧ Abandoned s r) ?_ ⟨hs, h⟩ hrun
    rintro s s' a - ⟨hs, h⟩ hstep
    exact ⟨hs.step a hstep, h.step hs hstep⟩
  exact hkept.2

theorem Abandoned.never_starts (h : Abandoned s r) (hs : Reachable s)
    (actions : List (Action α)) : s.occurrences (startsBody r) actions = 0 := by
  refine occurrences_eq_zero (P := fun s => Reachable s ∧ Abandoned s r) ?_ ⟨hs, h⟩ actions
  rintro s s' a ⟨hs, h⟩ hstep
  have hbodies : s.bodies r = 0 := by
    have hle := s.bodies_le_places r
    have hnowhere := h.nowhere
    omega
  exact ⟨startsBody_of_bodies hbodies, hs.step a hstep, h.step hs hstep⟩

theorem Abandoned.in_no_queue (h : Abandoned s r) :
    r ∉ s.pool.queue ∧ ∀ k, (k, r) ∉ s.queue.entries := by
  have hplaces : s.queue.holds r + s.pumpHolds r + (s.pool.queue.count r + s.pool.hands r) +
    s.arriving r = 0 := h.nowhere
  exact ⟨List.count_eq_zero.mp (by omega), DelayQueue.holds_eq_zero_iff.mp (by omega)⟩

/-! ## Submissions -/

/-- A submission does not begin as one that has failed with a record. -/
theorem firstStage_submission {request : Request} {stage : Submission}
    (h : Call.submission stage = (s.firstStage request).2) :
    stage.lost? = none ∧ ∀ r failure, stage ≠ .aborted r failure := by
  cases request with
  | scheduleSeries delay recurrence =>
    rw [firstStage] at h
    split at h <;> cases h <;> exact ⟨rfl, fun _ _ => Submission.noConfusion⟩
  | submitAll count => cases count <;> cases h
  | submit | schedule _ =>
    cases h
    exact ⟨rfl, fun _ _ => Submission.noConfusion⟩
  | _ => cases h

theorem stageStep_submission {choice : Nat} {call : Call α} {stage' : Submission}
    (h : s.stageStep choice call = some (u, .submission stage')) :
    ∃ stage v, call = .submission stage ∧ s.submissionStep choice stage = some (v, stage') ∧
      u = v.giveHandle stage' := by
  cases call with
  | submission stage =>
    obtain ⟨⟨v, stage''⟩, hv, heq⟩ := Option.map_eq_some_iff.mp h
    cases heq
    exact ⟨stage, v, rfl, hv, rfl⟩
  | _ =>
    obtain ⟨_, -, heq⟩ := Option.map_eq_some_iff.mp h
    cases heq

/-- A submission is refused by leaving all places as they are. -/
theorem submissionStep_lost {choice : Nat} {stage stage' : Submission}
    (h : s.submissionStep choice stage = some (u, stage')) (hlost : stage'.lost? = some r) :
    stage.lost? = some r ∨ (stage.duty = .carrying r ∧ u.places r = s.places r) := by
  cases stage with
  | arriving =>
    rw [submissionStep] at h
    split at h <;> cases h <;> cases hlost
  | executing r' =>
    have hholds := Pool.execute_holds s.pool r' choice r
    unfold submissionStep execute at h
    simp only at h
    split at h
    next =>
      cases h
      cases hlost
    next heq =>
      obtain ⟨rfl, hanswer⟩ := Prod.mk.inj heq
      cases h
      cases hlost
      rw [hanswer] at hholds
      exact .inr ⟨rfl, places_with_pool (n := 0) hholds⟩
    next heq =>
      obtain ⟨rfl, hanswer⟩ := Prod.mk.inj heq
      cases h
      cases hlost
      rw [hanswer] at hholds
      exact .inr ⟨rfl, places_with_pool (n := 0) hholds⟩
    next =>
      cases h
      cases hlost
  | checking r' kind =>
    rw [submissionStep] at h
    split at h
    · cases h
      cases hlost
    · cases h
      cases hlost
      exact .inr ⟨rfl, rfl⟩
  | offering r' kind =>
    rw [submissionStep, offer] at h
    cases hoffer : s.queue.offer (s.isPending r') (s.key r') r' with
    | none =>
      rw [hoffer] at h
      cases h
      cases hlost
      exact .inr ⟨rfl, rfl⟩
    | some offered =>
      obtain ⟨queue, needsPump⟩ := offered
      rw [hoffer] at h
      cases needsPump <;> cases h <;> cases hlost
  | startingPump r' kind k =>
    rw [submissionStep] at h
    split at h
    · cases h
    · split at h <;> cases h <;> cases hlost
  | retracting r' k reason =>
    cases h
    cases hlost
  | counting r' kind =>
    cases h
    cases hlost
  | explaining r' =>
    cases h
    exact .inl hlost
  | accepted r' => cases h
  | failed r' error => cases h
  | aborted r' failure => cases h

/-- A call that carried a record has let go of it, and has put it nowhere. -/
theorem Abandoned.of_dropped {call call' : Call α} (hs : Reachable s)
    (hcall : s.calls[i]? = some call) (hduty : call.duty = .carrying r)
    (hduty' : call'.duty ≠ .carrying r) (hcalls : t.calls = s.calls.set i call')
    (hplaces : t.places r = s.places r) (hgrows : s.records.length ≤ t.records.length) :
    Abandoned t r := by
  have hcount := countP_set_add hcall call' fun call => call.duty == .carrying r
  rw [hduty, beq_self_eq_true, beq_false_of_ne hduty', ← hcalls] at hcount
  have harriving : t.arriving r + 1 = s.arriving r := hcount
  have hone : s.places r + s.arriving r = 1 := hs.carried r (by omega)
  have hmade := (hs.held r).known (.inl (by omega))
  exact ⟨Nat.lt_of_lt_of_le hmade hgrows, by omega⟩

theorem duty_of_lost {stage : Submission} (h : stage.lost? = some r) : stage.duty = .free := by
  cases stage <;> first | rfl | cases h

theorem CallRefusal.not_lost {reason : String} {call : Call α} {stage : Submission}
    (h : CallRefusal s reason call u (.submission stage)) :
    stage.lost? = none ∧ ∀ r failure, stage ≠ .aborted r failure := by
  cases h with
  | retracting _ _ => exact ⟨rfl, fun _ _ => Submission.noConfusion⟩

/-- The record of a submission that has been refused is nowhere. -/
theorem Reachable.lost {stage : Submission} (h : Reachable s)
    (hcall : s.calls[i]? = some (.submission stage)) (hlost : stage.lost? = some r) :
    Abandoned s r := by
  induction h generalizing stage with
  | initial host name config clockEnd now => cases hcall
  | @step s s' a hs hstep ih =>
    rcases step_call hstep hcall with
      hold | ⟨request, -, hbegun⟩ | ⟨choice, call, u, -, hi, hstage, hs'⟩ |
        ⟨reason, call, u, -, -, hrefusal, -⟩
    · exact (ih hold hlost).step hs hstep
    · rw [(firstStage_submission hbegun).1] at hlost
      cases hlost
    · obtain ⟨before, v, rfl, hbefore, rfl⟩ := stageStep_submission hstage
      rcases submissionStep_lost hbefore hlost with hlost' | ⟨hduty, hplaces⟩
      · exact (ih hi hlost').step hs hstep
      · have hdropped : (Call.submission stage : Call α).duty ≠ .carrying r := by
          rw [Call.duty, duty_of_lost hlost]
          nofun
        have hgrows : s.records.length ≤ s'.records.length :=
          step_of_move (P := fun s' => s.records.length ≤ s'.records.length) (fun _ => rfl)
            (fun hmove => hmove.keeps.length_le) hstep
        refine .of_dropped hs hi hduty hdropped ?_ ?_ hgrows
        · rw [hs']
        · rw [hs', ← hplaces]
          cases stage <;> rfl
    · rw [hrefusal.not_lost.1] at hlost
      cases hlost

/-- A panic goes through a submission if the factory lets one through, and then the record stays in
the run queue, or if the pump that is to be started cannot have its name. -/
theorem submissionStep_aborted {choice : Nat} {stage : Submission} {failure : Failure}
    (h : s.submissionStep choice stage = some (u, .aborted r failure)) :
    (s.pool.factory.next s.pool.nextIndex = .unwound failure ∧
        u.pool.queue = s.pool.queue ++ [r]) ∨
      (s.pumpNameFault? = some failure ∧ stage.duty.launches r = true) := by
  cases stage with
  | executing r' =>
    unfold submissionStep execute at h
    simp only at h
    split at h
    case h_4 heq =>
      obtain ⟨rfl, hanswer⟩ := Prod.mk.inj heq
      cases h
      have hqueue := Pool.execute_queue s.pool r choice
      rw [hanswer] at hqueue
      exact .inl ⟨hqueue.2.2, hqueue.2.1⟩
    all_goals cases h
  | startingPump r' kind k =>
    rw [submissionStep] at h
    split at h
    next => cases h
    next =>
      split at h <;> cases h
      next hfault => exact .inr ⟨hfault, beq_self_eq_true r⟩
  | arriving =>
    rw [submissionStep] at h
    split at h <;> cases h
  | checking r' kind =>
    rw [submissionStep] at h
    split at h <;> cases h
  | offering r' kind =>
    rw [submissionStep] at h
    split at h <;> cases h
  | _ => cases h

/-- No panic has gone through a submission. -/
def NoneAborted (s : System α) : Prop :=
  ∀ (i : Nat) (r : Ref) (failure : Failure),
    s.calls[i]? ≠ some (Call.submission (.aborted r failure))

/-- No panic goes through a submission, if no factory lets one through and the pump can have its
name. -/
theorem Steady.exec_noneAborted {actions : List (Action α)} (hs : Steady s) (hnot : NoneAborted s)
    (hname : s.pumpNameFault? = none) (hactions : ∀ a ∈ actions, a.Contained)
    (hrun : s.exec actions = some t) : NoneAborted t := by
  have hkept : (Steady t ∧ t.pumpNameFault? = none) ∧ NoneAborted t := by
    refine exec_keeps (P := fun s => (Steady s ∧ s.pumpNameFault? = none) ∧ NoneAborted s) ?_
      ⟨⟨hs, hname⟩, hnot⟩ hrun
    rintro s s' a ha ⟨⟨hs, hname⟩, hnot⟩ hstep
    refine ⟨⟨hs.step (hactions a ha) hstep, (step_pumpNameFault? hstep).trans hname⟩,
      fun i r failure hcall => ?_⟩
    rcases step_call hstep hcall with
      hold | ⟨request, -, hbegun⟩ | ⟨_, call, u, -, -, hstage, -⟩ | ⟨_, _, _, -, -, hrefusal, -⟩
    · exact hnot i r failure hold
    · exact (firstStage_submission hbegun).2 r failure rfl
    · obtain ⟨before, v, -, hbefore, -⟩ := stageStep_submission hstage
      rcases submissionStep_aborted hbefore with ⟨hunwound, -⟩ | ⟨hfault, -⟩
      · exact hs.contained _ _ failure hunwound
      · rw [hname] at hfault
        cases hfault
    · exact hrefusal.not_lost.2 r failure rfl
  exact hkept.2

/-- A submission for which no pump could be started has taken its record out of the delay queue, if
it was still there. -/
theorem Steady.retracted {k : Key} {reason : String} {choice : Nat} (h : Steady s)
    (hcall : s.calls[i]? = some (.submission (.retracting r k reason)))
    (hfound : (s.queue.remove k).2 = true) (hstep : s.step (.call i choice) = some t) :
    Abandoned t r := by
  have hs := h.reachable
  have hduty : 0 < s.owing (·.submits r) ∧ 0 < s.owing (·.filed? == some (r, k)) :=
    ⟨countP_pos_of_getElem? hcall (beq_self_eq_true r),
      countP_pos_of_getElem? hcall (beq_self_eq_true (some (r, k)))⟩
  have hkey : k.id = r := hs.numbered.filed (Nat.lt_of_lt_of_le hduty.2 (Nat.le_add_right _ _))
  have hlt := DelayQueue.remove_holds_lt (hs.numbered.entry_unique hkey) hfound
  have hsole : s.places r + s.arriving r ≤ 1 := h.sole r
  have hplaces : s.places r = s.queue.holds r + s.pumpHolds r + s.pool.holds r := rfl
  have hstep : s.callStep i choice = some t := hstep
  rw [callStep, hcall] at hstep
  cases hstep
  have hcount := countP_set_add hcall
    (.submission (.failed (some r) (pumpRefusal reason))) fun call => call.duty == .carrying r
  refine ⟨hs.submitted (Nat.lt_of_lt_of_le hduty.1 (Nat.le_add_right _ _)), ?_⟩
  show (s.queue.remove k).1.holds r + s.pumpHolds r + s.pool.holds r +
    (s.calls.set i _).countP (fun call => call.duty == .carrying r) = 0
  have hcarried : s.arriving r = s.calls.countP fun call => call.duty == .carrying r := rfl
  have hnot : ((Call.submission (.retracting r k reason) : Call α).duty ==
    Duty.carrying r).toNat = 0 := rfl
  have hnot' : ((Call.submission (.failed (some r) (pumpRefusal reason)) : Call α).duty ==
    Duty.carrying r).toNat = 0 := rfl
  omega

/-- What a panic leaves behind that goes through a submission. -/
theorem Reachable.aborted {choice : Nat} {failure : Failure} (hs : Reachable s)
    (hstep : s.step (.call i choice) = some t)
    (haborted : t.calls[i]? = some (.submission (.aborted r failure))) :
    t.pool.queue = s.pool.queue ++ [r] ∨ (s.pumpNameFault? = some failure ∧ Stranded t r) := by
  rcases step_call hstep haborted with
    hold | ⟨request, heq, -⟩ | ⟨_, call, u, -, hi, hstage, ht⟩ | ⟨_, _, _, heq, -⟩
  · -- A submission that a panic has gone through does not go on.
    have hnone : s.callStep i choice = none := by
      rw [callStep, hold]
      rfl
    cases hnone.symm.trans hstep
  · cases heq
  · obtain ⟨before, v, rfl, hbefore, rfl⟩ := stageStep_submission hstage
    rcases submissionStep_aborted hbefore with ⟨-, hqueue⟩ | ⟨hfault, hlaunches⟩
    · rw [ht]
      exact .inl hqueue
    · have hname : s.pumpNameFault? ≠ none := by
        rw [hfault]
        exact Option.some_ne_none _
      have hstranded := hs.stranded hname (countP_pos_of_getElem? hi hlaunches)
      exact .inr ⟨hfault, hstranded.step hs hstep⟩
  · cases heq

/-! ## Runs -/

/-- The record is in neither queue and its body is not started, whatever happens next. -/
def LeftOut (s : System α) (r : Ref) : Prop :=
  ∀ later, s.occurrences (startsBody r) later = 0 ∧
    ∀ t, s.exec later = some t → r ∉ t.pool.queue ∧ ∀ k, (k, r) ∉ t.queue.entries

theorem Abandoned.leftOut (h : Abandoned s r) (hs : Reachable s) : LeftOut s r := fun later =>
  ⟨h.never_starts hs later, fun _ hexec => (h.exec hs hexec).in_no_queue⟩

/-- A submission that is refused never runs, unless it is for want of a pump: from then on its
record is in no queue and its body is not started, whatever the factories do. If no pump could be
started, this holds as long as every factory starts its worker or fails inside the pool, and the
submission finds its record in the delay queue where it has put it. That leaves submissions which a
panic goes through. There is none as long as every factory starts its worker or fails inside the
pool, and the pump can have its name. If the factory lets the panic through, it leaves the record at
the end of the run queue. If it comes from the name of the pump, the record is not run. -/
theorem refused_submission_never_runs (host : Host) (name : String) (config : ServiceConfig)
    (clockEnd now : Instant) {actions : List (Action α)}
    (hrun : (System.initial host name config clockEnd now).exec actions = some s)
    {stage : Submission} (hcall : s.calls[i]? = some (.submission stage)) :
    (∀ r error, stage = .failed (some r) error → (∀ reason, error ≠ pumpRefusal reason) →
      LeftOut s r) ∧
    ((∀ a ∈ actions, a.Contained) → ∀ r k reason, stage = .retracting r k reason →
      (s.queue.remove k).2 = true → ∀ choice t, s.step (.call i choice) = some t →
        LeftOut t r) ∧
    ((∀ a ∈ actions, a.Contained) → nameFault? (name ++ "-dispatcher") = none →
      ∀ r failure, stage ≠ .aborted r failure) ∧
    (∀ choice t r failure, s.step (.call i choice) = some t →
      t.calls[i]? = some (.submission (.aborted r failure)) →
      t.pool.queue = s.pool.queue ++ [r] ∨
        (nameFault? (name ++ "-dispatcher") = some failure ∧
          ∀ later, t.occurrences (startsBody r) later = 0)) := by
  have hstart : Reachable (System.initial host name config clockEnd now : System α) :=
    .initial host name config clockEnd now
  have hsteady : Steady (System.initial host name config clockEnd now : System α) :=
    .initial host name config clockEnd now
  have hs := hstart.exec hrun
  refine ⟨?_, ?_, ?_, ?_⟩
  · rintro r error rfl herror
    refine Abandoned.leftOut (hs.lost hcall ?_) hs
    unfold Submission.lost?
    split
    next heq => cases heq
    next heq =>
      cases heq
      exact absurd rfl (herror _)
    next heq =>
      cases heq
      rfl
    next hnot => exact absurd rfl (hnot _ _)
  · rintro hactions r k reason rfl hfound choice t hstep
    exact ((hsteady.exec hactions hrun).retracted hcall hfound hstep).leftOut
      (hs.step _ hstep)
  · rintro hactions hname r failure rfl
    exact hsteady.exec_noneAborted nofun hname hactions hrun i r failure hcall
  · intro choice t r failure hstep haborted
    have hname : s.pumpNameFault? = nameFault? (name ++ "-dispatcher") := by
      rw [exec_pumpNameFault? hrun]
      rfl
    rw [← hname]
    exact (hs.aborted hstep haborted).imp_right fun ⟨hfault, hstranded⟩ =>
      ⟨hfault, hstranded.never_starts (hs.step _ hstep)⟩

/-- A body is submitted, while the factory is one that starts no worker. -/
def submittedInVain (factory : WorkerFactory) : List (Action Unit) :=
  [.setFactory factory, .begin .submit, .call 0 0, .call 0 0]

/-- Another body is submitted, and the worker that is started for it calls a body. -/
def submittedNext : List (Action Unit) :=
  [.setFactory { start := fun _ _ => .started "worker" },
    .begin .submit, .call 1 0, .call 1 0, .worker 0, .worker 0, .worker 0]

/-- The worker that is started for the next submission does not take up one that was refused. -/
theorem refused_submission_is_not_taken_up :
    ∃ s t : System Unit, (System.initial .lenient "service" (.ofProcessors 1) 100 0).exec
        (submittedInVain (.panicking (.literal "no threads"))) = some s ∧
      s.calls = [.submission (.failed (some 0) (.threadSpawn .worker
        "thread factory panicked: no threads"))] ∧
      s.exec submittedNext = some t ∧ t.pool.phase? 0 = some (.running 1) ∧
      0 ∉ t.pool.queue ∧ s.occurrences (startsBody 0) submittedNext = 0 := by
  obtain ⟨hrefused, -, -⟩ := @refused_submission_never_runs Unit _ 0 .lenient "service"
    (.ofProcessors 1) 100 0 (submittedInVain (.panicking (.literal "no threads"))) rfl
    (.failed (some 0) (.threadSpawn .worker "thread factory panicked: no threads")) rfl
  obtain ⟨hnever, hnowhere⟩ := hrefused 0 (.threadSpawn .worker
    "thread factory panicked: no threads") rfl (fun _ => nofun) submittedNext
  exact ⟨_, _, rfl, rfl, rfl, rfl, (hnowhere _ rfl).1, hnever⟩

/-- The worker that is started for the next submission takes up one that a panic of the factory has
gone through, though the caller got no handle for it. -/
theorem aborted_submission_is_taken_up :
    ∃ s t : System Unit, (System.initial .lenient "service" (.ofProcessors 1) 100 0).exec
        (submittedInVain (.unwinding (.literal "no threads"))) = some s ∧
      s.calls = [.submission (.aborted 0 ⟨.literal "no threads"⟩)] ∧ s.pool.queue = [0] ∧
      s.exec submittedNext = some t ∧ t.pool.phase? 0 = some (.running 0) ∧
      s.occurrences (startsBody 0) submittedNext = 1 :=
  ⟨_, _, rfl, rfl, rfl, rfl, rfl, rfl⟩

/-- No pump can be started for a task that is due at once. Before its submission takes it out of the
delay queue again, another submission starts the pump, which has a worker take the task up. -/
def takenMeanwhile : List (Action Unit) :=
  [.setFactory { start := fun _ _ => .started "worker" },
    .begin (.schedule .zero), .call 0 0, .call 0 0, .callRefused 0 "no threads",
    .begin (.schedule (.ofSeconds 1)), .call 1 0, .call 1 0, .call 1 0,
    .pump 0, .pump 0, .pump 0, .pump 0, .worker 0, .worker 0, .worker 0, .call 0 0]

/-- The submission fails while its body is being run. -/
theorem unlaunched_submission_is_taken_up :
    ∃ s : System Unit,
      (System.initial .lenient "service" (.ofProcessors 1) 10000000000 0).exec takenMeanwhile =
        some s ∧
      (∀ a ∈ takenMeanwhile, a.Contained) ∧
      (s.calls[0]?).bind (·.submission?) = some (.failed (some 0) (pumpRefusal "no threads")) ∧
      s.pool.phase? 0 = some (.running 0) := by
  have hview : ((System.initial .lenient "service" (.ofProcessors 1) 10000000000 0).exec
      takenMeanwhile).map (fun s => ((s.calls[0]?).bind (·.submission?), s.pool.phase? 0)) =
        some (some (.failed (some 0) (pumpRefusal "no threads")), some (.running 0)) := by
    decide +kernel
  obtain ⟨s, hrun, hs⟩ := Option.map_eq_some_iff.mp hview
  simp only [Prod.mk.injEq] at hs
  exact ⟨s, hrun, by simp [takenMeanwhile, Action.Contained, WorkerFactory.Contained], hs⟩

/-- A task is scheduled for a service whose pump cannot have its name: the submission ends with the
panic, and the task stays in the delay queue. -/
theorem misnamed_submission_stays_queued :
    ∃ s : System Unit,
      (System.initial .lenient "ser\x00vice" (.ofProcessors 1) 10000000000 0).exec
        [.begin (.schedule .zero), .call 0 0, .call 0 0, .call 0 0] = some s ∧
      (∃ failure, nameFault? "ser\x00vice-dispatcher" = some failure ∧
        (s.calls[0]?).bind (·.submission?) = some (.aborted 0 failure)) ∧
      s.queue.refs = [0] := by
  have hview : ((System.initial .lenient "ser\x00vice" (.ofProcessors 1) 10000000000 0).exec
      [.begin (.schedule .zero), .call 0 0, .call 0 0, .call 0 0]).map
        (fun s : System Unit => ((s.calls[0]?).bind (·.submission?), s.queue.refs)) =
      (nameFault? "ser\x00vice-dispatcher").map
        (fun failure => (some (.aborted 0 failure), [0])) := by
    decide +kernel
  obtain ⟨failure, hfailure⟩ := Option.isSome_iff_exists.mp
    (show (nameFault? "ser\x00vice-dispatcher").isSome = true by decide +kernel)
  rw [hfailure, Option.map_some] at hview
  obtain ⟨s, hrun, hs⟩ := Option.map_eq_some_iff.mp hview
  simp only [Prod.mk.injEq] at hs
  exact ⟨s, hrun, ⟨failure, hfailure, hs.1⟩, hs.2⟩

end System

end TaskScheduler
