import TaskScheduler.System.Call
import TaskScheduler.Proofs.Sections.Core

/-
  What a section of a call does to the service.

  `Duty`: what a call still owes the service, whatever kind of call it is and however far it has
  come. `CallMove s duty t duty'`: some section leads from `s` to `t` and leaves the call with
  `duty'`. `stageStep_move`: a call does nothing else, up to what is only counted or reported;
  `firstStage_move`: nor does its beginning.
-/
namespace TaskScheduler

/-- What a call still owes the service. -/
inductive Duty where
  | free
  /-- Has made a record that is in no queue yet. -/
  | carrying (record : Ref)
  /-- Has to start the pump, for a record that it has put into the delay queue under a key or for
  the closing of that queue. -/
  | launching (record : Option (Ref × Key))
  /-- Has found that no pump can be started, so its record has to leave the delay queue. -/
  | retracting (record : Ref) (key : Key)
  /-- The record is in; it has to be counted as accepted. -/
  | counting (record : Ref)
  /-- Has cancelled a record whose entry has to leave the delay queue. -/
  | removing (record : Ref) (key : Key)
  /-- Has to close the delay queue. -/
  | closing
  /-- Has found that no pump can be started, and does its work. -/
  | draining
deriving DecidableEq, Repr

/-- The pump that the call was to start has been refused. -/
def Duty.followsRefusal : Duty → Bool
  | retracting .. | draining => true
  | _ => false

def Submission.duty : Submission → Duty
  | executing r | checking r _ | offering r _ => .carrying r
  | startingPump r _ k => .launching (some (r, k))
  | retracting r k _ => .retracting r k
  | counting r _ => .counting r
  | _ => .free

def Withdrawal.duty : Withdrawal → Duty
  | removing r k => .removing r k
  | _ => .free

def Disposal.duty : Disposal → Duty
  | closing => .closing
  | startingPump => .launching none
  | draining => .draining
  | _ => .free

def Batch.duty {α : Type} : Batch α → Duty
  | submitting _ current _ => current.duty
  | cancelling _ current _ => current.duty
  | _ => .free

def Call.duty {α : Type} : Call α → Duty
  | submission stage => stage.duty
  | withdrawal stage => stage.duty
  | retrieval _ => .free
  | disposal stage => stage.duty
  | batch stage => stage.duty

namespace System

variable {α : Type} {s s' : System α} {choice : Nat}

/-- The effects of the sections of a call, with what the call owes before and after. -/
inductive CallMove (s : System α) : Duty → System α → Duty → Prop where
  | quiet : CallMove s .free s .free
  | created (recurrence : Recurrence) (trigger : Instant) :
      CallMove s .free { s with
        nextId := s.nextId + 1
        records := s.records ++ [{ id := s.nextId, recurrence, trigger }] }
        (.carrying s.records.length)
  | carried {r : Ref} : CallMove s (.carrying r) s (.carrying r)
  /-- The service takes no work. -/
  | dropped {r : Ref} : CallMove s (.carrying r) s .free
  | executed {r : Ref} (choice : Nat) : (s.pool.execute r choice).answer = .ok () →
      CallMove s (.carrying r) { s with pool := (s.pool.execute r choice).pool } (.counting r)
  | refused {r : Ref} {error : PoolError} (choice : Nat) :
      (s.pool.execute r choice).answer = .error error →
      CallMove s (.carrying r) { s with pool := (s.pool.execute r choice).pool } .free
  /-- A panic of the factory goes through the call. -/
  | unwound {r : Ref} {failure : Failure} (choice : Nat) :
      (s.pool.execute r choice).answer = .unwound failure →
      CallMove s (.carrying r) { s with pool := (s.pool.execute r choice).pool } .free
  | offered {r : Ref} {queue : DelayQueue} {needsPump : Bool} :
      s.queue.offer (s.isPending r) (s.key r) r = some (queue, needsPump) →
      CallMove s (.carrying r) { s with queue }
        (if needsPump then .launching (some (r, s.key r)) else .counting r)
  | launched {r : Ref} {k : Key} : s.pump = none → s.pumpNameFault? = none →
      CallMove s (.launching (some (r, k))) { s with pump := some .waiting } (.counting r)
  /-- The thread of the pump cannot have its name, and the panic goes through the call. -/
  | misnamed {record : Option (Ref × Key)} {failure : Failure} :
      s.pumpNameFault? = some failure → CallMove s (.launching record) s .free
  /-- The thread of the pump is refused. -/
  | unlaunched {r : Ref} {k : Key} : s.pump = none → s.pumpNameFault? = none →
      CallMove s (.launching (some (r, k))) { s with queue := s.queue.releaseConsumer }
        (.retracting r k)
  | retracted {r : Ref} {k : Key} :
      CallMove s (.retracting r k) { s with queue := (s.queue.remove k).1 } .free
  /-- The submission is accepted; a caller who waits for it gets a handle. -/
  | counted {r : Ref} {handles : List Ref} :
      handles = s.handles ∨ handles = s.handles ++ [r] →
      CallMove s (.counting r) { s with accepted := s.accepted ++ [r], handles } .free
  | asked {r : Ref} (mayInterrupt : Bool) {duty : Duty} :
      (duty = .free ∧ s.isPending r = false) ∨
        (∃ record, s.record? r = some record ∧ record.state = .pending ∧
          duty = .removing r record.key) →
      CallMove s .free { s with
        records := s.records.modify r fun record => (record.cancel mayInterrupt).1 } duty
  | removed {r : Ref} {k : Key} :
      CallMove s (.removing r k) { s with queue := (s.queue.remove k).1 } .free
  | collected {r : Ref} :
      CallMove s .free { s with records := s.records.modify r (·.collectOutcome.1) } .free
  /-- The service stops running. -/
  | left : s.lifecycle = .running →
      CallMove s .free { s with lifecycle := .shuttingDown } .closing
  | closed : CallMove s .closing { s with queue := s.queue.close.1 }
      (if s.queue.close.2 then .launching none else .free)
  | launchedLast : s.pump = none → s.pumpNameFault? = none →
      CallMove s (.launching none) { s with pump := some .waiting } .free
  /-- The thread of the last pump is refused, and the caller becomes the pump. -/
  | replacedLast : s.pump = none → s.pumpNameFault? = none →
      CallMove s (.launching none)
        { s with queue := s.queue.releaseConsumer, pump := some .waiting } .draining
  | drainedLast : CallMove s .draining s .free

theorem submissionExecute_move {r : Ref} {stage' : Submission}
    (h : s.submissionStep choice (.executing r) = some (s', stage')) :
    ∃ t, CallMove s (.carrying r) t stage'.duty ∧ s'.core = t.core ∧ s'.giveHandle stage' = s' := by
  unfold submissionStep execute at h
  simp only at h
  split at h
  next heq =>
    obtain ⟨rfl, hanswer⟩ := Prod.mk.inj heq
    cases h
    exact ⟨_, .executed choice hanswer, rfl, rfl⟩
  next heq =>
    obtain ⟨rfl, hanswer⟩ := Prod.mk.inj heq
    cases h
    exact ⟨_, .refused choice hanswer, rfl, rfl⟩
  next heq =>
    obtain ⟨rfl, hanswer⟩ := Prod.mk.inj heq
    cases h
    exact ⟨_, .refused choice hanswer, rfl, rfl⟩
  next heq =>
    obtain ⟨rfl, hanswer⟩ := Prod.mk.inj heq
    cases h
    exact ⟨_, .unwound choice hanswer, rfl, rfl⟩

theorem submissionOffer_move {r : Ref} {kind : SubmissionKind} {stage' : Submission}
    (h : s.submissionStep choice (.offering r kind) = some (s', stage')) :
    ∃ t, CallMove s (.carrying r) t stage'.duty ∧ s'.core = t.core ∧ s'.giveHandle stage' = s' := by
  unfold submissionStep offer at h
  simp only at h
  cases hoffer : s.queue.offer (s.isPending r) (s.key r) r with
  | none =>
    rw [hoffer] at h
    cases h
    exact ⟨_, .dropped, rfl, rfl⟩
  | some offered =>
    obtain ⟨queue, needsPump⟩ := offered
    rw [hoffer] at h
    cases needsPump with
    | true =>
      cases h
      exact ⟨_, .offered hoffer, rfl, rfl⟩
    | false =>
      cases h
      exact ⟨_, .offered hoffer, rfl, rfl⟩

/-- A section of a submission, whether or not a caller waits for the handle. -/
theorem submissionStep_move {stage stage' : Submission} {u : System α}
    (h : s.submissionStep choice stage = some (s', stage'))
    (hu : u = s' ∨ u = s'.giveHandle stage') :
    ∃ t, CallMove s stage.duty t stage'.duty ∧ u.core = t.core := by
  have hsame : s'.giveHandle stage' = s' → u = s' := fun hgive => by
    rcases hu with rfl | rfl
    · rfl
    · exact hgive
  cases stage with
  | arriving =>
    simp only [submissionStep] at h
    split at h
    · cases h
      obtain rfl := hsame rfl
      exact ⟨_, .created .once s.now, rfl⟩
    · cases h
      obtain rfl := hsame rfl
      exact ⟨_, .quiet, rfl⟩
  | executing r =>
    obtain ⟨t, hmove, hcore, hgive⟩ := submissionExecute_move h
    exact ⟨t, hmove, (congrArg core (hsame hgive)).trans hcore⟩
  | checking r kind =>
    simp only [submissionStep] at h
    split at h
    · cases h
      obtain rfl := hsame rfl
      exact ⟨_, .carried, rfl⟩
    · cases h
      obtain rfl := hsame rfl
      exact ⟨_, .dropped, rfl⟩
  | offering r kind =>
    obtain ⟨t, hmove, hcore, hgive⟩ := submissionOffer_move h
    exact ⟨t, hmove, (congrArg core (hsame hgive)).trans hcore⟩
  | startingPump r kind k =>
    simp only [submissionStep] at h
    split at h
    next => cases h
    next hpump =>
      split at h
      next hfault =>
        cases h
        obtain rfl := hsame rfl
        exact ⟨_, .misnamed hfault, rfl⟩
      next hname =>
        cases h
        obtain rfl := hsame rfl
        exact ⟨_, .launched (Option.not_isSome_iff_eq_none.mp hpump) hname, rfl⟩
  | retracting r k reason =>
    cases h
    obtain rfl := hsame rfl
    exact ⟨_, .retracted, rfl⟩
  | counting r kind =>
    cases h
    rcases hu with rfl | rfl
    · exact ⟨_, .counted (.inl rfl), rfl⟩
    · exact ⟨_, .counted (.inr rfl), rfl⟩
  | explaining r =>
    cases h
    obtain rfl := hsame rfl
    exact ⟨_, .quiet, rfl⟩
  | accepted r => cases h
  | failed r error => cases h
  | aborted r failure => cases h

theorem withdrawalStep_move {stage stage' : Withdrawal}
    (h : s.withdrawalStep stage = some (s', stage')) :
    ∃ t, CallMove s stage.duty t stage'.duty ∧ s'.core = t.core := by
  cases stage with
  | asking r mayInterrupt =>
    simp only [withdrawalStep] at h
    have hcore := cancelRecord_core s r mayInterrupt
    -- Any other answer than the one with a key is that of a record that does not wait.
    have hnot : (s.cancelRecord r mayInterrupt).2 ≠ ⟨true, some (s.key r)⟩ →
        s.isPending r = false := fun hne =>
      eq_false_of_ne_true fun hpending => hne (cancelRecord_pending hpending mayInterrupt)
    split at h
    next heq =>
      cases h
      rw [heq] at hcore
      obtain ⟨record, hrecord, hstate, rfl⟩ := cancelRecord_key heq
      exact ⟨_, .asked mayInterrupt (.inr ⟨record, hrecord, hstate, rfl⟩), hcore⟩
    next heq =>
      cases h
      rw [heq] at hcore hnot
      exact ⟨_, .asked mayInterrupt (.inl ⟨rfl, hnot nofun⟩), hcore⟩
    next heq =>
      cases h
      rw [heq] at hcore hnot
      exact ⟨_, .asked mayInterrupt (.inl ⟨rfl, hnot nofun⟩), hcore⟩
  | removing r k =>
    cases h
    exact ⟨_, .removed, rfl⟩
  | counting r =>
    cases h
    exact ⟨_, .quiet, rfl⟩
  | answered r accepted => cases h

theorem retrievalStep_move {stage stage' : Retrieval α}
    (h : s.retrievalStep stage = some (s', stage')) :
    ∃ t, CallMove s .free t .free ∧ s'.core = t.core := by
  cases stage with
  | waiting r limit =>
    simp only [retrievalStep] at h
    split at h
    · cases h
      exact ⟨_, .quiet, rfl⟩
    · split at h
      · split at h
        · cases h
          exact ⟨_, .quiet, rfl⟩
        · cases h
      · cases h
  | taking r =>
    cases h
    exact ⟨_, .collected, rfl⟩
  | answered r outcome => cases h

theorem disposalStep_move {stage stage' : Disposal}
    (h : s.disposalStep stage = some (s', stage')) :
    ∃ t, CallMove s stage.duty t stage'.duty ∧ s'.core = t.core := by
  cases stage with
  | asking =>
    simp only [disposalStep] at h
    cases hlife : s.lifecycle with
    | running =>
      rw [hlife] at h
      cases h
      exact ⟨_, .left hlife, rfl⟩
    | shuttingDown =>
      rw [hlife] at h
      cases h
      exact ⟨_, .quiet, rfl⟩
    | terminated =>
      rw [hlife] at h
      cases h
      exact ⟨_, .quiet, rfl⟩
  | closing =>
    have hmove := CallMove.closed (s := s)
    simp only [disposalStep, closeQueue] at h
    cases hneeds : s.queue.close.2 with
    | true =>
      rw [hneeds] at h hmove
      cases h
      exact ⟨_, hmove, rfl⟩
    | false =>
      rw [hneeds] at h hmove
      cases h
      exact ⟨_, hmove, rfl⟩
  | startingPump =>
    simp only [disposalStep] at h
    split at h
    next => cases h
    next hpump =>
      split at h
      next hfault =>
        cases h
        exact ⟨_, .misnamed hfault, rfl⟩
      next hname =>
        cases h
        exact ⟨_, .launchedLast (Option.not_isSome_iff_eq_none.mp hpump) hname, rfl⟩
  | draining =>
    simp only [disposalStep] at h
    split at h
    · cases h
      exact ⟨_, .drainedLast, rfl⟩
    · cases h
      exact ⟨_, .drainedLast, rfl⟩
    · cases h
  | finished => cases h
  | aborted failure => cases h

theorem batchNext_duty (accepted : List Ref) (left : Nat) (stage : Submission) :
    (batchNext accepted left stage : Batch α).duty = stage.duty := by
  cases stage with
  | accepted r => cases left <;> rfl
  | failed r error => cases accepted <;> rfl
  | _ => rfl

theorem batchStep_move {stage stage' : Batch α} (h : s.batchStep choice stage = some (s', stage')) :
    ∃ t, CallMove s stage.duty t stage'.duty ∧ s'.core = t.core := by
  cases stage with
  | submitting accepted current left =>
    obtain ⟨⟨u, next⟩, hstep, heq⟩ := Option.map_eq_some_iff.mp h
    cases heq
    rw [batchNext_duty]
    exact submissionStep_move hstep (.inl rfl)
  | cancelling error current left =>
    obtain ⟨⟨u, next⟩, hstep, heq⟩ := Option.map_eq_some_iff.mp h
    obtain ⟨t, hmove, hcore⟩ := withdrawalStep_move hstep
    have hduty : stage'.duty = next.duty ∧ s' = u := by
      cases next with
      | answered r accepted => cases left <;> cases heq <;> exact ⟨rfl, rfl⟩
      | _ =>
        cases heq
        exact ⟨rfl, rfl⟩
    rw [hduty.1, hduty.2]
    exact ⟨t, hmove, hcore⟩
  | collecting outcomes left =>
    cases left with
    | nil =>
      cases h
      exact ⟨_, .quiet, rfl⟩
    | cons r rest =>
      simp only [batchStep] at h
      split at h
      · cases h
        exact ⟨_, .collected, rfl⟩
      · cases h
  | finished outcomes => cases h
  | failed error => cases h
  | aborted failure => cases h

/-- A section of a call does what one of the moves says. -/
theorem stageStep_move {call call' : Call α} (h : s.stageStep choice call = some (s', call')) :
    ∃ t, CallMove s call.duty t call'.duty ∧ s'.core = t.core := by
  cases call with
  | submission stage =>
    obtain ⟨⟨u, stage'⟩, hstep, heq⟩ := Option.map_eq_some_iff.mp h
    cases heq
    exact submissionStep_move hstep (.inr rfl)
  | withdrawal stage =>
    obtain ⟨⟨u, stage'⟩, hstep, heq⟩ := Option.map_eq_some_iff.mp h
    cases heq
    exact withdrawalStep_move hstep
  | retrieval stage =>
    obtain ⟨⟨u, stage'⟩, hstep, heq⟩ := Option.map_eq_some_iff.mp h
    cases heq
    exact retrievalStep_move hstep
  | disposal stage =>
    obtain ⟨⟨u, stage'⟩, hstep, heq⟩ := Option.map_eq_some_iff.mp h
    cases heq
    exact disposalStep_move hstep
  | batch stage =>
    obtain ⟨⟨u, stage'⟩, hstep, heq⟩ := Option.map_eq_some_iff.mp h
    cases heq
    exact batchStep_move hstep

/-! ## Refused starts -/

theorem submissionStep_followsRefusal {stage stage' : Submission}
    (h : s.submissionStep choice stage = some (s', stage')) :
    stage'.duty.followsRefusal = false := by
  unfold submissionStep at h
  split at h <;> (repeat' split at h) <;> cases h <;> rfl

theorem withdrawalStep_followsRefusal {stage stage' : Withdrawal}
    (h : s.withdrawalStep stage = some (s', stage')) : stage'.duty.followsRefusal = false := by
  unfold withdrawalStep at h
  split at h <;> (repeat' split at h) <;> cases h <;> rfl

theorem disposalStep_followsRefusal {stage stage' : Disposal}
    (h : s.disposalStep stage = some (s', stage')) : stage'.duty.followsRefusal = false := by
  unfold disposalStep at h
  split at h <;> (repeat' split at h) <;> cases h <;> rfl

theorem batchStep_followsRefusal {stage stage' : Batch α}
    (h : s.batchStep choice stage = some (s', stage')) : stage'.duty.followsRefusal = false := by
  cases stage with
  | submitting accepted current left =>
    obtain ⟨⟨u, next⟩, hstep, heq⟩ := Option.map_eq_some_iff.mp h
    cases heq
    rw [batchNext_duty]
    exact submissionStep_followsRefusal hstep
  | cancelling error current left =>
    obtain ⟨⟨u, next⟩, hstep, heq⟩ := Option.map_eq_some_iff.mp h
    have hnext := withdrawalStep_followsRefusal hstep
    cases next with
    | answered r accepted => cases left <;> cases heq <;> rfl
    | _ =>
      cases heq
      exact hnext
  | collecting outcomes left =>
    cases left with
    | nil =>
      cases h
      rfl
    | cons r rest =>
      simp only [batchStep] at h
      split at h <;> cases h
      rfl
  | _ => cases h

/-- A call comes to what follows from a refusal only by that refusal. -/
theorem stageStep_followsRefusal {call call' : Call α}
    (h : s.stageStep choice call = some (s', call')) : call'.duty.followsRefusal = false := by
  cases call with
  | submission stage =>
    obtain ⟨⟨u, stage'⟩, hstep, heq⟩ := Option.map_eq_some_iff.mp h
    cases heq
    exact submissionStep_followsRefusal hstep
  | withdrawal stage =>
    obtain ⟨⟨u, stage'⟩, hstep, heq⟩ := Option.map_eq_some_iff.mp h
    cases heq
    exact withdrawalStep_followsRefusal hstep
  | retrieval stage =>
    obtain ⟨⟨u, stage'⟩, hstep, heq⟩ := Option.map_eq_some_iff.mp h
    cases heq
    rfl
  | disposal stage =>
    obtain ⟨⟨u, stage'⟩, hstep, heq⟩ := Option.map_eq_some_iff.mp h
    cases heq
    exact disposalStep_followsRefusal hstep
  | batch stage =>
    obtain ⟨⟨u, stage'⟩, hstep, heq⟩ := Option.map_eq_some_iff.mp h
    cases heq
    exact batchStep_followsRefusal hstep

/-- What becomes of a call whose pump is refused: a submission has to take its record out of the
delay queue again, and the caller of a disposal becomes the pump. -/
inductive CallRefusal (s : System α) (reason : String) : Call α → System α → Call α → Prop where
  | retracting {r : Ref} {kind : SubmissionKind} {k : Key} :
      s.pump = none → s.pumpNameFault? = none →
      CallRefusal s reason (.submission (.startingPump r kind k))
        { s with queue := s.queue.releaseConsumer } (.submission (.retracting r k reason))
  | draining : s.pump = none → s.pumpNameFault? = none →
      CallRefusal s reason (.disposal .startingPump)
        ({ s with queue := s.queue.releaseConsumer, pump := some .waiting }.report
          [.drainedByCaller s.name (pumpRefusal reason)]) (.disposal .draining)

theorem stageRefused_refusal {reason : String} {call call' : Call α}
    (h : s.stageRefused reason call = some (s', call')) : CallRefusal s reason call s' call' := by
  cases call with
  | submission stage =>
    obtain ⟨⟨u, stage'⟩, hstep, heq⟩ := Option.map_eq_some_iff.mp h
    cases heq
    cases stage with
    | startingPump r kind k =>
      obtain ⟨v, hrefused, heq⟩ := Option.map_eq_some_iff.mp hstep
      cases heq
      obtain ⟨hpump, hname, rfl⟩ := refusePump_eq_some hrefused
      exact .retracting hpump hname
    | _ => cases hstep
  | disposal stage =>
    obtain ⟨⟨u, stage'⟩, hstep, heq⟩ := Option.map_eq_some_iff.mp h
    cases heq
    cases stage with
    | startingPump =>
      obtain ⟨v, hrefused, heq⟩ := Option.map_eq_some_iff.mp hstep
      cases heq
      obtain ⟨hpump, hname, rfl⟩ := refusePump_eq_some hrefused
      exact .draining hpump hname
    | _ => cases hstep
  | _ => cases h

/-- A call whose pump is refused does what one of the moves says. -/
theorem CallRefusal.move {reason : String} {call call' : Call α}
    (h : CallRefusal s reason call s' call') :
    ∃ t, CallMove s call.duty t call'.duty ∧ s'.core = t.core := by
  cases h with
  | retracting hpump hname => exact ⟨_, .unlaunched hpump hname, rfl⟩
  | draining hpump hname => exact ⟨_, .replacedLast hpump hname, rfl⟩

theorem CallRefusal.followsRefusal {reason : String} {call call' : Call α}
    (h : CallRefusal s reason call s' call') : call'.duty.followsRefusal = true := by
  cases h <;> rfl

/-- A call begins with nothing in hand, or with a new record. -/
theorem firstStage_move (s : System α) (request : Request) :
    CallMove s .free (s.firstStage request).1 (s.firstStage request).2.duty := by
  cases request with
  | scheduleSeries delay recurrence =>
    simp only [firstStage]
    split
    · exact .quiet
    · exact .created _ _
  | schedule delay => exact .created _ _
  | submitAll count => cases count <;> exact .quiet
  | _ => exact .quiet

end System

end TaskScheduler
