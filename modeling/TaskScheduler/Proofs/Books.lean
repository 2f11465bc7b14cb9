import TaskScheduler.Proofs.FailedSubmission
import TaskScheduler.Proofs.Drain

/-
  What the service counts about tasks, section by section.

  `Books s n`: the counters of `s` are right but for `n` cancellations that have been accepted and
  not counted. The counters are no part of `core`, so this is shown of the sections themselves and
  not of moves. A record ends in six places: cancelled by a handle, given up by the pump or by a
  worker, rejected by the pump or when the pool is closed, and at the end of a run. All but the
  first are counted where they happen; a cancellation by a handle is counted some sections later,
  and until then the call owes it (`Call.uncounted`).
-/
namespace TaskScheduler

namespace Record

variable {α : Type}

/-- A record counts as ended in the way it ends, or not at all if it goes on. -/
theorem complete_counts (a : Record α) (last now : Instant) (result : BodyResult α) :
    ((a.complete last now result).2.2 = none ∧
        (a.complete last now result).1.isFinal = a.isFinal) ∨
      ((a.complete last now result).2.2 ≠ none ∧ a.isFinal = false ∧
        (a.complete last now result).1.isFinal = true) := by
  cases hstate : a.state with
  | running =>
    cases result with
    | returned value =>
      cases hrepeats : a.repeats with
      | true => simp [complete, isFinal, hstate, hrepeats, RecordState.isFinal]
      | false => simp [complete, finish, isFinal, hstate, hrepeats, RecordState.isFinal]
    | spent => simp [complete, finish, isFinal, hstate, RecordState.isFinal]
    | panicked failure => simp [complete, finish, isFinal, hstate, RecordState.isFinal]
  | _ => simp [complete, hstate]

/-- A record ends at a cancellation that is accepted, and at no other. -/
theorem cancel_counts (a : Record α) (mayInterrupt : Bool) :
    ((a.cancel mayInterrupt).2.accepted = false ∧ (a.cancel mayInterrupt).1 = a) ∨
      ((a.cancel mayInterrupt).2.accepted = true ∧ a.isFinal = false ∧
        (a.cancel mayInterrupt).1.isFinal = true) := by
  cases haccepted : (a.cancel mayInterrupt).2.accepted with
  | true => exact .inr ⟨rfl, a.cancel_ends haccepted⟩
  | false =>
    refine .inl ⟨rfl, ?_⟩
    unfold cancel at haccepted ⊢
    split at haccepted
    next => cases haccepted
    next =>
      split at haccepted
      · cases haccepted
      next hnot => exact if_neg hnot ▸ rfl
    next => rfl

end Record

namespace Metrics

/-- Every task that ends is counted once, whatever its end. -/
theorem finished_countFinished (m : Metrics) (kind : FinishKind) :
    (m.countFinished kind).finished = m.finished + 1 := by
  cases kind <;> simp only [countFinished, finished] <;> omega

theorem submitted_countFinished (m : Metrics) (kind : FinishKind) :
    (m.countFinished kind).submitted = m.submitted := by
  cases kind <;> rfl

theorem cancelled_countFinished (m : Metrics) (kind : FinishKind) :
    (m.countFinished kind).cancelled = m.cancelled := by
  cases kind <;> rfl

/-- Every task that is accepted is counted once, whatever its kind. -/
theorem submitted_countSubmitted (m : Metrics) (kind : SubmissionKind) :
    (m.countSubmitted kind).submitted = m.submitted + 1 := by
  cases kind <;> simp only [countSubmitted, submitted] <;> omega

theorem finished_countSubmitted (m : Metrics) (kind : SubmissionKind) :
    (m.countSubmitted kind).finished = m.finished := by
  cases kind <;> rfl

theorem cancelled_countSubmitted (m : Metrics) (kind : SubmissionKind) :
    (m.countSubmitted kind).cancelled = m.cancelled := by
  cases kind <;> rfl

end Metrics

/-- The cancellation has been accepted and is not counted yet. -/
def Withdrawal.uncounted : Withdrawal → Bool
  | removing .. | counting _ => true
  | _ => false

/-- The call has a cancellation to count. -/
def Call.uncounted {α : Type} (call : Call α) : Bool := call.withdrawal?.any (·.uncounted)

namespace System

variable {α : Type} {s s' t : System α} {a : Action α} {r : Ref} {n choice i : Nat}

/-- The number of records that are terminal. -/
def finals (s : System α) : Nat := s.records.countP (·.isFinal)

/-- The number of cancellations by a handle that have been accepted and are not counted yet. -/
def uncounted (s : System α) : Nat := s.calls.countP (·.uncounted)

/-- The counters are right but for `n` cancellations. -/
structure Books (s : System α) (n : Nat) : Prop where
  submitted : s.metrics.submitted = s.accepted.length
  ended : s.finals = s.metrics.finished + s.metrics.cancelled + n

/-! ## Records -/

/-- One record is changed, and it is as terminal as it was. -/
theorem Books.update (h : Books s n) (f : Record α → Record α)
    (hf : ∀ x, s.record? r = some x → (f x).isFinal = x.isFinal) : Books (s.update r f) n where
  submitted := h.submitted
  ended := by
    have hended := h.ended
    cases hx : s.record? r with
    | none =>
      have hsame : (s.update r f).records = s.records :=
        List.modify_eq_self (List.getElem?_eq_none_iff.mp hx)
      rw [finals, hsame]
      exact hended
    | some x =>
      have hcount := countP_modify_add hx f (·.isFinal)
      rw [hf x hx] at hcount
      have hfinals : (s.update r f).finals = s.finals := Nat.add_right_cancel hcount
      rw [hfinals]
      exact hended

/-- One record has become terminal. -/
theorem finals_update {x : Record α} (hx : s.record? r = some x) (f : Record α → Record α)
    (hbefore : x.isFinal = false) (hafter : (f x).isFinal = true) :
    (s.update r f).finals = s.finals + 1 := by
  have hcount := countP_modify_add hx f (·.isFinal)
  rw [hbefore, hafter] at hcount
  exact hcount

/-- A record has become terminal, and somebody owes the cancellation. -/
theorem Books.ends {x : Record α} (h : Books s n) (hx : s.record? r = some x)
    (f : Record α → Record α) (hbefore : x.isFinal = false) (hafter : (f x).isFinal = true) :
    Books (s.update r f) (n + 1) where
  submitted := h.submitted
  ended := by
    rw [finals_update hx f hbefore hafter, h.ended]
    rfl

/-- A cancellation that was owed is counted. -/
theorem Books.countCancelled (h : Books s (n + 1)) :
    Books { s with metrics := s.metrics.countCancelled } n where
  submitted := h.submitted
  ended := by
    have hended : s.finals = s.metrics.finished + s.metrics.cancelled + (n + 1) := h.ended
    show s.finals = s.metrics.finished + (s.metrics.cancelled + 1) + n
    omega

/-- The other ends are counted by their kind. -/
theorem Books.countFinished (h : Books s (n + 1)) (kind : FinishKind) :
    Books { s with metrics := s.metrics.countFinished kind } n where
  submitted := (s.metrics.submitted_countFinished kind).trans h.submitted
  ended := by
    have hended : s.finals = s.metrics.finished + s.metrics.cancelled + (n + 1) := h.ended
    show s.finals = (s.metrics.countFinished kind).finished +
      (s.metrics.countFinished kind).cancelled + n
    rw [Metrics.finished_countFinished, Metrics.cancelled_countFinished]
    omega

theorem Books.cancelRecord (h : Books s n) (r : Ref) (mayInterrupt : Bool) :
    Books (s.cancelRecord r mayInterrupt).1
      (n + (s.cancelRecord r mayInterrupt).2.accepted.toNat) := by
  unfold System.cancelRecord
  cases hx : s.record? r with
  | none => exact h
  | some x =>
    rcases x.cancel_counts mayInterrupt with ⟨hrefused, hsame⟩ | ⟨haccepted, hbefore, hafter⟩
    · simp only [hrefused, hsame]
      refine h.update _ fun y hy => ?_
      rw [hx] at hy
      rw [Option.some.inj hy]
    · simp only [haccepted]
      exact h.ends hx _ hbefore hafter

theorem Books.beginRun (h : Books s n) (r : Ref) : Books (s.beginRun r).1 n := by
  unfold System.beginRun
  cases hx : s.record? r with
  | none => exact h
  | some x =>
    rw [Option.bind_some]
    cases hstate : x.state with
    | pending =>
      have hupdated := h.update (r := r) (fun _ => { x with state := .running }) fun y hy => by
        rw [hx] at hy
        rw [← Option.some.inj hy, Record.isFinal, Record.isFinal, hstate]
        rfl
      simp only [Record.beginRun, hstate]
      exact ⟨hupdated.submitted, hupdated.ended⟩
    | _ =>
      simp only [Record.beginRun, hstate]
      exact h

theorem Books.enterBody (h : Books s n) (r : Ref) : Books (s.enterBody r).1 n := by
  unfold System.enterBody
  cases hx : s.record? r with
  | none => exact h
  | some x =>
    refine h.update _ fun y hy => ?_
    rw [hx] at hy
    rw [← Option.some.inj hy, Record.isFinal, Record.isFinal, x.enterBody_enters.state]

theorem Books.completeRun (h : Books s n) (r : Ref) (result : BodyResult α) :
    Books (s.completeRun r result).1 n := by
  have hsampled : Books { s with metrics := s.metrics.sampleExecution } n := ⟨h.submitted, h.ended⟩
  unfold System.completeRun
  cases hx : s.record? r with
  | none => exact hsampled
  | some x =>
    have hcounts := x.complete_counts s.clockEnd s.now result
    rcases hcompleted : x.complete s.clockEnd s.now result with ⟨x', after, finish⟩
    rw [hcompleted] at hcounts
    simp only [hcompleted]
    rcases hcounts with ⟨hgoesOn, hsame⟩ | ⟨hends, hbefore, hafter⟩
    · obtain rfl : finish = none := hgoesOn
      refine hsampled.update (r := r) (fun _ => x') fun y hy => ?_
      obtain rfl : x = y := Option.some.inj (hx.symm.trans hy)
      exact hsame
    · obtain ⟨kind, rfl⟩ := Option.ne_none_iff_exists'.mp hends
      exact (hsampled.ends hx (fun _ => x') hbefore hafter).countFinished kind

theorem Books.giveUp (h : Books s n) (r : Ref) : Books (s.giveUp r).1 n := by
  unfold System.giveUp
  cases hx : s.record? r with
  | none => exact h
  | some x =>
    cases hgiven : x.giveUp.2 with
    | false =>
      simp only [hgiven]
      exact h
    | true =>
      simp only [hgiven]
      obtain ⟨hbefore, hafter⟩ := x.giveUp_ends hgiven
      exact (h.ends hx _ hbefore hafter).countCancelled

theorem Books.reject (h : Books s n) (r : Ref) (reason : String) :
    Books (s.reject r reason) n := by
  unfold System.reject
  cases hx : s.record? r with
  | none => exact h
  | some x =>
    cases hstate : x.state with
    | pending =>
      simp only [Record.reject, hstate]
      refine (h.ends hx _ ?_ rfl).countFinished .rejected
      rw [Record.isFinal, hstate]
      rfl
    | _ =>
      simp only [Record.reject, hstate]
      exact h

theorem Books.postpone (h : Books s n) (r : Ref) (trigger : Instant) :
    Books (s.postpone r trigger) n :=
  h.update _ fun x _ => by rw [Record.isFinal, Record.isFinal, x.postpone_state]

theorem Books.collectOutcome (h : Books s n) (r : Ref) : Books (s.collectOutcome r).1 n :=
  h.update _ fun _ _ => rfl

/-- A new record waits. -/
theorem Books.create (h : Books s n) (recurrence : Recurrence) (trigger : Instant) :
    Books (s.create recurrence trigger).1 n where
  submitted := h.submitted
  ended := by
    have hfinals : (s.create recurrence trigger).1.finals = s.finals := List.countP_append
    rw [hfinals]
    exact h.ended

theorem Books.offer (h : Books s n) (r : Ref) : Books (s.offer r).1 n := by
  unfold System.offer
  split
  · exact ⟨h.submitted, h.ended⟩
  · exact h

/-! ## Calls -/

theorem Books.submissionStep {stage stage' : Submission} (h : Books s n)
    (hstep : s.submissionStep choice stage = some (s', stage')) : Books s' n := by
  cases stage with
  | arriving =>
    rw [System.submissionStep] at hstep
    split at hstep <;> cases hstep
    · exact h.create .once s.now
    · exact h
  | executing r =>
    simp only [System.submissionStep] at hstep
    have hexecuted : Books (s.execute r choice).1 n := ⟨h.submitted, h.ended⟩
    split at hstep <;> (next heq => rw [heq] at hexecuted; cases hstep; exact hexecuted)
  | checking r kind =>
    rw [System.submissionStep] at hstep
    split at hstep <;> cases hstep <;> exact h
  | offering r kind =>
    simp only [System.submissionStep] at hstep
    have hoffered := h.offer r
    split at hstep <;> (next heq => rw [heq] at hoffered; cases hstep; exact hoffered)
  | startingPump r kind k =>
    rw [System.submissionStep] at hstep
    split at hstep
    · cases hstep
    · split at hstep <;> cases hstep <;> exact ⟨h.submitted, h.ended⟩
  | retracting r k reason =>
    cases hstep
    exact ⟨h.submitted, h.ended⟩
  | counting r kind =>
    cases hstep
    constructor
    · show (s.metrics.countSubmitted kind).submitted = (s.accepted ++ [r]).length
      rw [Metrics.submitted_countSubmitted, h.submitted, List.length_append, List.length_singleton]
    · show s.finals = (s.metrics.countSubmitted kind).finished +
        (s.metrics.countSubmitted kind).cancelled + n
      rw [Metrics.finished_countSubmitted, Metrics.cancelled_countSubmitted]
      exact h.ended
  | explaining r =>
    cases hstep
    exact h
  | _ => cases hstep

/-- A cancellation that is accepted is owed until it is counted. -/
theorem Books.withdrawalStep {stage stage' : Withdrawal} (h : Books s (n + stage.uncounted.toNat))
    (hstep : s.withdrawalStep stage = some (s', stage')) :
    Books s' (n + stage'.uncounted.toNat) := by
  cases stage with
  | asking r mayInterrupt =>
    have hcancelled : Books (s.cancelRecord r mayInterrupt).1 _ :=
      Books.cancelRecord h r mayInterrupt
    simp only [System.withdrawalStep] at hstep
    split at hstep <;> (next heq => rw [heq] at hcancelled; cases hstep; exact hcancelled)
  | removing r k =>
    cases hstep
    exact ⟨h.submitted, h.ended⟩
  | counting r =>
    cases hstep
    exact h.countCancelled
  | answered r accepted => cases hstep

theorem Books.takeAnswer (h : Books s n) (r : Ref) : Books (s.takeAnswer r).1 n :=
  h.collectOutcome r

theorem Books.retrievalStep {stage stage' : Retrieval α} (h : Books s n)
    (hstep : s.retrievalStep stage = some (s', stage')) : Books s' n := by
  cases stage with
  | waiting r limit =>
    simp only [System.retrievalStep] at hstep
    split at hstep
    · cases hstep
      exact h
    · split at hstep
      · split at hstep <;> cases hstep
        exact h
      · cases hstep
  | taking r =>
    cases hstep
    exact h.takeAnswer r
  | answered r outcome => cases hstep

theorem Books.disposalStep {stage stage' : Disposal} (h : Books s n)
    (hstep : s.disposalStep stage = some (s', stage')) : Books s' n := by
  cases stage with
  | asking =>
    simp only [System.disposalStep] at hstep
    split at hstep <;> cases hstep
    · exact ⟨h.submitted, h.ended⟩
    · exact h
  | closing =>
    have hclosed : Books s.closeQueue.1 n := ⟨h.submitted, h.ended⟩
    simp only [System.disposalStep] at hstep
    split at hstep <;> (next heq => rw [heq] at hclosed; cases hstep; exact hclosed)
  | startingPump =>
    simp only [System.disposalStep] at hstep
    split at hstep
    · cases hstep
    · split at hstep <;> cases hstep <;> exact ⟨h.submitted, h.ended⟩
  | draining =>
    simp only [System.disposalStep] at hstep
    split at hstep <;> cases hstep <;> exact h
  | _ => cases hstep

theorem uncounted_batchNext (accepted : List Ref) (left : Nat) (stage : Submission) :
    (Call.batch (batchNext accepted left stage : Batch α)).uncounted = false := by
  cases stage with
  | accepted r => cases left <;> rfl
  | failed r error => cases accepted <;> rfl
  | _ => rfl

theorem Books.batchStep {stage stage' : Batch α}
    (h : Books s (n + (Call.batch stage).uncounted.toNat))
    (hstep : s.batchStep choice stage = some (s', stage')) :
    Books s' (n + (Call.batch stage').uncounted.toNat) := by
  cases stage with
  | submitting accepted current left =>
    obtain ⟨⟨u, next⟩, hnext, heq⟩ := Option.map_eq_some_iff.mp hstep
    cases heq
    rw [uncounted_batchNext]
    exact Books.submissionStep h hnext
  | cancelling error current left =>
    obtain ⟨⟨u, next⟩, hnext, heq⟩ := Option.map_eq_some_iff.mp hstep
    have hwithdrawn := Books.withdrawalStep h hnext
    cases next with
    | answered r accepted => cases left <;> cases heq <;> exact hwithdrawn
    | _ =>
      cases heq
      exact hwithdrawn
  | collecting outcomes left =>
    cases left with
    | nil =>
      cases hstep
      exact h
    | cons r rest =>
      simp only [System.batchStep] at hstep
      split at hstep <;> cases hstep
      exact Books.takeAnswer h r
  | _ => cases hstep

theorem Books.stageStep {call call' : Call α} (h : Books s (n + call.uncounted.toNat))
    (hstep : s.stageStep choice call = some (s', call')) :
    Books s' (n + call'.uncounted.toNat) := by
  cases call with
  | submission stage =>
    obtain ⟨⟨u, stage'⟩, hstage, heq⟩ := Option.map_eq_some_iff.mp hstep
    cases heq
    have hsubmitted := Books.submissionStep h hstage
    cases stage' <;> exact ⟨hsubmitted.submitted, hsubmitted.ended⟩
  | withdrawal stage =>
    obtain ⟨⟨u, stage'⟩, hstage, heq⟩ := Option.map_eq_some_iff.mp hstep
    cases heq
    exact Books.withdrawalStep h hstage
  | retrieval stage =>
    obtain ⟨⟨u, stage'⟩, hstage, heq⟩ := Option.map_eq_some_iff.mp hstep
    cases heq
    exact Books.retrievalStep h hstage
  | disposal stage =>
    obtain ⟨⟨u, stage'⟩, hstage, heq⟩ := Option.map_eq_some_iff.mp hstep
    cases heq
    exact Books.disposalStep h hstage
  | batch stage =>
    obtain ⟨⟨u, stage'⟩, hstage, heq⟩ := Option.map_eq_some_iff.mp hstep
    cases heq
    exact Books.batchStep h hstage

/-- Who is refused a pump has no cancellation to count. -/
theorem Books.refused {reason : String} {call call' : Call α} (h : Books s n)
    (hrefusal : CallRefusal s reason call s' call') :
    Books s' n ∧ call.uncounted = false ∧ call'.uncounted = false := by
  cases hrefusal <;> exact ⟨⟨h.submitted, h.ended⟩, rfl, rfl⟩

/-- A call begins with nothing cancelled. -/
theorem Books.firstStage (h : Books s n) (request : Request) :
    Books (s.firstStage request).1 n ∧ (s.firstStage request).2.uncounted = false := by
  cases request with
  | schedule delay => exact ⟨h.create _ _, rfl⟩
  | scheduleSeries delay recurrence =>
    simp only [System.firstStage]
    split
    · exact ⟨h, rfl⟩
    · exact ⟨h.create _ _, rfl⟩
  | submitAll count => cases count <;> exact ⟨h, rfl⟩
  | _ => exact ⟨h, rfl⟩

/-! ## The pump -/

theorem Books.pumpTake {idleElapsed : Bool} (h : Books s n)
    (hstep : s.pumpTake idleElapsed = some s') : Books s' n := by
  unfold System.pumpTake at hstep
  split at hstep <;> cases hstep <;> exact ⟨h.submitted, h.ended⟩

theorem Books.rejectStranded (h : Books s n) (error : PoolError) (stranded : List Ref) :
    Books (stranded.foldl (System.rejectStranded error) s) n := by
  induction stranded generalizing s with
  | nil => exact h
  | cons r rest ih =>
    have hreported : Books (s.report [.strandedRejected (s.id r) error]) n :=
      ⟨h.submitted, h.ended⟩
    exact ih (hreported.reject r _)

theorem Books.shutdownPool (h : Books s n) : Books s.shutdownPool.1 n := by
  have hclosed : Books (s.apply s.pool.shutdown) n := ⟨h.submitted, h.ended⟩
  unfold System.shutdownPool
  simp only
  split
  next error stranded _ => exact hclosed.rejectStranded error stranded
  next => exact hclosed
  next => exact hclosed

theorem Books.pumpFail (h : Books s n) (r : Ref) (reason : String) :
    Books (s.pumpFail r reason) n := by
  have hcounted : Books { s with metrics := s.metrics.countHandoffFailure } n :=
    ⟨h.submitted, h.ended⟩
  have hnoted := hcounted.update (r := r) (·.noteHandoffFailure) fun _ _ => rfl
  unfold System.pumpFail
  simp only
  split <;> exact ⟨hnoted.submitted, hnoted.ended⟩

theorem Books.pumpStep (h : Books s n) (hstep : s.pumpStep choice = some s') : Books s' n := by
  unfold System.pumpStep at hstep
  split at hstep
  next => cases hstep
  next => exact h.pumpTake hstep
  next =>
    cases hstep
    exact ⟨h.submitted, h.ended⟩
  next => split at hstep <;> cases hstep <;> exact ⟨h.submitted, h.ended⟩
  next r _ =>
    cases hstep
    have hgiven := h.giveUp r
    exact ⟨hgiven.submitted, hgiven.ended⟩
  next =>
    split at hstep <;> cases hstep
    exact ⟨h.submitted, h.ended⟩
  next r _ =>
    have hexecuted : Books (s.execute r choice).1 n := ⟨h.submitted, h.ended⟩
    split at hstep <;>
      (next heq =>
        rw [heq] at hexecuted
        cases hstep
        exact ⟨hexecuted.submitted, hexecuted.ended⟩)
  next =>
    cases hstep
    exact ⟨h.submitted, h.ended⟩
  next =>
    cases hstep
    exact ⟨h.submitted, h.ended⟩
  next r reason _ =>
    cases hstep
    exact h.pumpFail r reason
  next r reason _ =>
    cases hstep
    have hrejected := h.reject r reason
    exact ⟨hrejected.submitted, hrejected.ended⟩
  next r backoff _ =>
    cases hstep
    have hpostponed := h.postpone r (deadline s.clockEnd s.now backoff)
    exact ⟨hpostponed.submitted, hpostponed.ended⟩
  next =>
    cases hstep
    exact ⟨h.submitted, h.ended⟩
  next =>
    have hstopped : Books (s.report [.queueDrained s.name]).shutdownPool.1 n :=
      Books.shutdownPool ⟨h.submitted, h.ended⟩
    split at hstep <;>
      (next heq =>
        rw [heq] at hstopped
        cases hstep
        exact ⟨hstopped.submitted, hstopped.ended⟩)
  next =>
    split at hstep <;> cases hstep
    exact ⟨h.submitted, h.ended⟩
  next =>
    cases hstep
    exact ⟨h.submitted, h.ended⟩
  next => cases hstep

/-! ## Workers -/

theorem Books.bodyEnds {result : BodyResult α} (h : Books s n)
    (hstep : s.bodyEnds i result = some s') : Books s' n := by
  unfold System.bodyEnds at hstep
  split at hstep
  next r _ =>
    have hcompleted := h.completeRun r result
    split at hstep <;>
      (next heq =>
        rw [heq] at hcompleted
        cases hstep
        exact ⟨hcompleted.submitted, hcompleted.ended⟩)
  next => cases hstep

theorem Books.workerEnter (h : Books s n) (i : Nat) (r : Ref) : Books (s.workerEnter i r) n := by
  have hentered := h.enterBody r
  unfold System.workerEnter
  generalize s.enterBody r = entered at hentered
  obtain ⟨u, called⟩ := entered
  have hrunning : Books (u.setWorker i (.running r)) n := ⟨hentered.submitted, hentered.ended⟩
  cases called with
  | true => exact hrunning
  | false =>
    simp only
    cases hends : (u.setWorker i (.running r)).bodyEnds i .spent with
    | none => exact hrunning
    | some v => exact hrunning.bodyEnds hends

theorem Books.workerStep (h : Books s n) (hstep : s.workerStep i = some s') : Books s' n := by
  unfold System.workerStep at hstep
  split at hstep
  next r _ =>
    have hbegun := h.beginRun r
    split at hstep <;>
      (next heq =>
        rw [heq] at hbegun
        cases hstep
        exact ⟨hbegun.submitted, hbegun.ended⟩)
  next r _ =>
    cases hstep
    exact h.workerEnter i r
  next r _ =>
    cases hstep
    have hoffered := h.offer r
    unfold System.workerRequeue
    split <;>
      (next heq =>
        rw [heq] at hoffered
        exact ⟨hoffered.submitted, hoffered.ended⟩)
  next r _ =>
    cases hstep
    have hgiven := h.giveUp r
    exact ⟨hgiven.submitted, hgiven.ended⟩
  next =>
    split at hstep <;> cases hstep
    exact ⟨h.submitted, h.ended⟩
  next =>
    cases hstep
    exact ⟨h.submitted, h.ended⟩
  next r reason _ =>
    cases hstep
    have hrejected := h.reject r (pumpRefusal reason).text
    exact ⟨hrejected.submitted, hrejected.ended⟩
  next =>
    obtain ⟨pool, -, rfl⟩ := Option.map_eq_some_iff.mp hstep
    exact ⟨h.submitted, h.ended⟩
  next =>
    obtain ⟨pool, -, rfl⟩ := Option.map_eq_some_iff.mp hstep
    exact ⟨h.submitted, h.ended⟩

theorem Books.workerRefused {reason : String} (h : Books s n)
    (hstep : s.workerRefused i reason = some s') : Books s' n := by
  unfold System.workerRefused at hstep
  split at hstep
  next =>
    obtain ⟨u, hrefused, rfl⟩ := Option.map_eq_some_iff.mp hstep
    obtain ⟨-, -, rfl⟩ := refusePump_eq_some hrefused
    exact ⟨h.submitted, h.ended⟩
  next => cases hstep

/-! ## Steps -/

/-- Whoever is not in a call counts what it ends at once. -/
theorem Books.step_others (h : Books s n) (hstep : s.step a = some s')
    (hbegin : ∀ request, a ≠ .begin request) (hcall : ∀ i choice, a ≠ .call i choice)
    (hrefused : ∀ i reason, a ≠ .callRefused i reason) : Books s' n := by
  cases a with
  | begin request => exact absurd rfl (hbegin request)
  | call i choice => exact absurd rfl (hcall i choice)
  | callRefused i reason => exact absurd rfl (hrefused i reason)
  | workerRefused i reason => exact h.workerRefused hstep
  | pump choice => exact h.pumpStep hstep
  | pumpIdle =>
    simp only [step, System.pumpIdle] at hstep
    split at hstep
    · exact h.pumpTake hstep
    · cases hstep
  | pumpFault failure =>
    simp only [step, System.pumpFault] at hstep
    split at hstep <;> cases hstep <;> exact ⟨h.submitted, h.ended⟩
  | worker i => exact h.workerStep hstep
  | workerExpires i =>
    obtain ⟨pool, -, rfl⟩ := Option.map_eq_some_iff.mp hstep
    exact ⟨h.submitted, h.ended⟩
  | bodyEnds i result => exact h.bodyEnds hstep
  | setCoreSize size =>
    cases hstep
    unfold System.resize
    split
    · exact h
    · exact ⟨h.submitted, h.ended⟩
  | passTime _ | prestart _ | setFactory _ | forbidden _ =>
    cases hstep
    exact ⟨h.submitted, h.ended⟩

/-- The counters lack the cancellations that calls have yet to count, and nothing else. -/
theorem Books.step (h : Books s s.uncounted) (hstep : s.step a = some s') :
    Books s' s'.uncounted := by
  rcases step_calls hstep with
    ⟨hsame, hbegin, hcall, hrefused⟩ | ⟨request, rfl, hcalls⟩ |
      ⟨j, choice, call, u, call', rfl, hj, hstage, rfl⟩ |
      ⟨j, reason, call, u, call', rfl, hj, hrefusal, rfl⟩
  · rw [uncounted, hsame]
    exact h.step_others hstep hbegin hcall hrefused
  · have hsame : s'.uncounted = s.uncounted := by
      rw [uncounted, hcalls, List.countP_append, List.countP_singleton,
        (h.firstStage request).2]
      rfl
    rw [System.step] at hstep
    split at hstep
    next =>
      cases hstep
      rw [hsame]
      exact ⟨(h.firstStage request).1.submitted, (h.firstStage request).1.ended⟩
    next => cases hstep
  · have hcount : (s.calls.set j call').countP (·.uncounted) + call.uncounted.toNat =
        s.uncounted + call'.uncounted.toNat := countP_set_add hj call' (·.uncounted)
    have hle : call.uncounted.toNat ≤ s.uncounted := by
      cases hcall : call.uncounted with
      | false => exact Nat.zero_le _
      | true => exact countP_pos_of_getElem? hj hcall
    have hbefore : Books s (s.uncounted - call.uncounted.toNat + call.uncounted.toNat) := by
      rw [Nat.sub_add_cancel hle]
      exact h
    have hafter := hbefore.stageStep hstage
    have hsame : s.uncounted - call.uncounted.toNat + call'.uncounted.toNat =
        (s.calls.set j call').countP (·.uncounted) := by omega
    rw [hsame] at hafter
    exact ⟨hafter.submitted, hafter.ended⟩
  · obtain ⟨hafter, hbefore, hnext⟩ := h.refused hrefusal
    have hcount : (s.calls.set j call').countP (·.uncounted) + call.uncounted.toNat =
        s.uncounted + call'.uncounted.toNat := countP_set_add hj call' (·.uncounted)
    have hsame : (s.calls.set j call').countP (·.uncounted) = s.uncounted := by
      rw [hbefore, hnext] at hcount
      exact hcount
    rw [uncounted, hsame]
    exact ⟨hafter.submitted, hafter.ended⟩

/-- In every state the service can get into, every accepted task has been counted, and so has every
terminal record but for the cancellations that calls have yet to count. -/
theorem Reachable.books (h : Reachable s) : Books s s.uncounted := by
  induction h with
  | initial host name config clockEnd now => exact ⟨rfl, rfl⟩
  | step a _ hstep ih => exact ih.step hstep

end System

end TaskScheduler
