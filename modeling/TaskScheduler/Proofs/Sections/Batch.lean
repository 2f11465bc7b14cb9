import TaskScheduler.Proofs.Sections.Call

/-
  What a section of a batch does.

  A batch submits for work that is to start at once, and cancels without interrupting; a batch at
  such a stage is `isOrderly`. `BatchMove s choice stage u stage'`: some section leads an orderly
  batch from `stage` to `stage'` and the service from `s` to `u`, with one constructor for each exit
  of each section. `batchStep_batchMove`: a batch does nothing else, and `BatchMove.orderly`: it
  stays orderly.
-/
namespace TaskScheduler

/-- The submission is one for work that is to start at once, and has not come to its end. -/
def Submission.isImmediate : Submission → Bool
  | arriving | executing _ | counting _ .immediate | explaining _ => true
  | _ => false

/-- The cancellation does not interrupt, and has not come to its end. -/
def Withdrawal.isGentle : Withdrawal → Bool
  | asking _ mayInterrupt => !mayInterrupt
  | removing .. | counting _ => true
  | answered .. => false

namespace Batch

variable {α : Type}

/-- The stages that a batch can be at. -/
def isOrderly : Batch α → Bool
  | submitting _ current _ => current.isImmediate
  | cancelling _ current _ => current.isGentle
  | _ => true

/-- What a batch does once it has had some bodies accepted and some are left. -/
def afterAccepted (accepted : List Ref) : Nat → Batch α
  | 0 => .collecting [] accepted
  | left + 1 => .submitting accepted .arriving left

/-- What a batch does that has failed, with some records left to cancel. -/
def afterFailed (error : ServiceError) : List Ref → Batch α
  | [] => .failed error
  | r :: rest => .cancelling error (.asking r false) rest

theorem isOrderly_afterAccepted (accepted : List Ref) (left : Nat) :
    (afterAccepted accepted left : Batch α).isOrderly = true := by cases left <;> rfl

theorem isOrderly_afterFailed (error : ServiceError) (left : List Ref) :
    (afterFailed error left : Batch α).isOrderly = true := by cases left <;> rfl

end Batch

namespace System

variable {α : Type} {s u : System α} {choice : Nat} {stage stage' : Batch α}

/-- The effects of the sections of a batch. -/
inductive BatchMove (s : System α) (choice : Nat) : Batch α → System α → Batch α → Prop where
  | created {accepted : List Ref} {left : Nat} :
      BatchMove s choice (.submitting accepted .arriving left) (s.create .once s.now).1
        (.submitting accepted (.executing s.records.length) left)
  /-- The service takes no work. -/
  | turnedAway {accepted : List Ref} {left : Nat} :
      BatchMove s choice (.submitting accepted .arriving left) s
        (.submitting accepted (.explaining none) left)
  | entered {accepted : List Ref} {r : Ref} {left : Nat} :
      (s.pool.execute r choice).answer = .ok () →
      BatchMove s choice (.submitting accepted (.executing r) left) (s.execute r choice).1
        (.submitting accepted (.counting r .immediate) left)
  /-- The pool is closing. -/
  | closed {accepted : List Ref} {r : Ref} {left : Nat} :
      (s.pool.execute r choice).answer = .error .shutdown →
      BatchMove s choice (.submitting accepted (.executing r) left) (s.execute r choice).1
        (.submitting accepted (.explaining (some r)) left)
  /-- The pool can start no worker. -/
  | refused {accepted : List Ref} {r : Ref} {left : Nat} {reason : String} :
      (s.pool.execute r choice).answer = .error (.spawn reason) →
      BatchMove s choice (.submitting accepted (.executing r) left) (s.execute r choice).1
        (.afterFailed (.threadSpawn .worker reason) accepted)
  | unwound {accepted : List Ref} {r : Ref} {left : Nat} {failure : Failure} :
      (s.pool.execute r choice).answer = .unwound failure →
      BatchMove s choice (.submitting accepted (.executing r) left) (s.execute r choice).1
        (.aborted failure)
  | counted {accepted : List Ref} {r : Ref} {left : Nat} :
      BatchMove s choice (.submitting accepted (.counting r .immediate) left)
        ({ s with
          metrics := s.metrics.countSubmitted .immediate
          accepted := s.accepted ++ [r] }.report [])
        (.afterAccepted (accepted ++ [r]) left)
  | explained {accepted : List Ref} {lost : Option Ref} {left : Nat} :
      BatchMove s choice (.submitting accepted (.explaining lost) left) s
        (.afterFailed s.rejection accepted)
  | asked {error : ServiceError} {r : Ref} {left : List Ref} {next : Batch α} :
      (∃ k, next = .cancelling error (.removing r k) left) ∨
        next = .cancelling error (.counting r) left ∨ next = .afterFailed error left →
      BatchMove s choice (.cancelling error (.asking r false) left) (s.cancelRecord r false).1 next
  | removed {error : ServiceError} {r : Ref} {k : Key} {left : List Ref} :
      BatchMove s choice (.cancelling error (.removing r k) left) (s.removeKey k).1
        (.cancelling error (.counting r) left)
  | noted {error : ServiceError} {r : Ref} {left : List Ref} :
      BatchMove s choice (.cancelling error (.counting r) left)
        { s with metrics := s.metrics.countCancelled } (.afterFailed error left)
  | collected {outcomes : List (Except TaskError α)} {r : Ref} {left : List Ref} :
      s.isFinal r = true →
      BatchMove s choice (.collecting outcomes (r :: left)) (s.takeAnswer r).1
        (.collecting (outcomes ++ [(s.takeAnswer r).2]) left)
  | finished {outcomes : List (Except TaskError α)} :
      BatchMove s choice (.collecting outcomes []) s (.finished outcomes)

theorem batchStep_submitting {accepted : List Ref} {current : Submission} {left : Nat}
    (himmediate : current.isImmediate = true)
    (h : s.batchStep choice (.submitting accepted current left) = some (u, stage')) :
    BatchMove s choice (.submitting accepted current left) u stage' := by
  obtain ⟨⟨v, next⟩, hnext, heq⟩ := Option.map_eq_some_iff.mp h
  obtain ⟨rfl, rfl⟩ := Prod.mk.inj heq
  cases current with
  | arriving =>
    simp only [submissionStep] at hnext
    split at hnext <;> cases hnext
    · exact .created
    · exact .turnedAway
  | executing r =>
    unfold submissionStep execute at hnext
    simp only at hnext
    split at hnext
    next heq =>
      obtain ⟨rfl, hanswer⟩ := Prod.mk.inj heq
      cases hnext
      exact .entered hanswer
    next heq =>
      obtain ⟨rfl, hanswer⟩ := Prod.mk.inj heq
      cases hnext
      exact .closed hanswer
    next heq =>
      obtain ⟨rfl, hanswer⟩ := Prod.mk.inj heq
      cases hnext
      cases accepted <;> exact .refused hanswer
    next heq =>
      obtain ⟨rfl, hanswer⟩ := Prod.mk.inj heq
      cases hnext
      exact .unwound hanswer
  | counting r kind =>
    cases kind with
    | immediate =>
      cases hnext
      cases left <;> exact .counted
    | _ => cases himmediate
  | explaining lost =>
    cases hnext
    cases accepted <;> exact .explained
  | _ => cases himmediate

theorem batchStep_cancelling {error : ServiceError} {current : Withdrawal} {left : List Ref}
    (hgentle : current.isGentle = true)
    (h : s.batchStep choice (.cancelling error current left) = some (u, stage')) :
    BatchMove s choice (.cancelling error current left) u stage' := by
  obtain ⟨⟨v, next⟩, hnext, heq⟩ := Option.map_eq_some_iff.mp h
  cases current with
  | asking r mayInterrupt =>
    obtain rfl : mayInterrupt = false := by simpa [Withdrawal.isGentle] using hgentle
    simp only [withdrawalStep] at hnext
    split at hnext
    next hcancel =>
      cases hnext
      cases heq
      obtain rfl := congrArg Prod.fst hcancel
      exact .asked (.inl ⟨_, rfl⟩)
    next hcancel =>
      cases hnext
      cases heq
      obtain rfl := congrArg Prod.fst hcancel
      exact .asked (.inr (.inl rfl))
    next hcancel =>
      cases hnext
      obtain rfl := congrArg Prod.fst hcancel
      cases left <;> cases heq <;> exact .asked (.inr (.inr rfl))
  | removing r k =>
    cases hnext
    cases heq
    exact .removed
  | counting r =>
    cases hnext
    cases left <;> cases heq <;> exact .noted
  | answered r accepted => cases hgentle

/-- A section of a batch does what one of the moves says. -/
theorem batchStep_batchMove (horderly : stage.isOrderly = true)
    (h : s.batchStep choice stage = some (u, stage')) : BatchMove s choice stage u stage' := by
  cases stage with
  | submitting accepted current left => exact batchStep_submitting horderly h
  | cancelling error current left => exact batchStep_cancelling horderly h
  | collecting outcomes left =>
    cases left with
    | nil =>
      cases h
      exact .finished
    | cons r rest =>
      simp only [batchStep] at h
      split at h <;> cases h
      next hfinal => exact .collected hfinal
  | _ => cases h

theorem BatchMove.orderly (h : BatchMove s choice stage u stage') : stage'.isOrderly = true := by
  cases h with
  | refused | explained | noted => exact Batch.isOrderly_afterFailed _ _
  | counted => exact Batch.isOrderly_afterAccepted _ _
  | asked hnext =>
    rcases hnext with ⟨k, rfl⟩ | rfl | rfl
    · rfl
    · rfl
    · exact Batch.isOrderly_afterFailed _ _
  | _ => rfl

end System

end TaskScheduler
