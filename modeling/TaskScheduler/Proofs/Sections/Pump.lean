import TaskScheduler.System.Pump
import TaskScheduler.Proofs.Sections.Core

/-
  What a section of the pump does to the service.

  `PumpMove s t`: some section of the pump leads from `s` to `t`. There is one constructor for each
  effect on what others can see; sections that only decide what the pump does next are `wentOn`, and
  `GoesOn` has one constructor for each of them.
  `pumpStep_move`, `pumpIdle_move`, `pumpFault_move`: the pump does nothing else, up to what is only
  counted or reported.
-/
namespace TaskScheduler

/-- The pump looks whether the record in hand is still pending. -/
def PumpPhase.looks : PumpPhase → Bool
  | holding .. | withdrawn .. => true
  | _ => false

/-- A panic may end the hand-off that the pump is at. -/
def PumpPhase.canFault : PumpPhase → Bool
  | holding .. | checked .. | pausing .. | handing _ => true
  | _ => false

namespace System

variable {α : Type} {s s' : System α}

/-- The records of a service when some of them have been rejected for the same reason. -/
def rejectAll (records : List (Record α)) (reason : String) (rs : List Ref) : List (Record α) :=
  rs.foldl (fun records r => records.modify r fun record => (record.reject reason).1) records

def strandedReason (error : PoolError) : String :=
  "backend pool shut down with no worker to run it: " ++ error.text

/-- The records after the pool is closed: those it could start no worker for are rejected. -/
def afterShutdown (s : System α) : List (Record α) :=
  match s.pool.shutdown.answer with
  | .ok (some (error, stranded)) => rejectAll s.records (strandedReason error) stranded
  | _ => s.records

/-- How the pump goes on with the record in hand where it changes nothing else. -/
inductive GoesOn (s : System α) : PumpPhase → PumpPhase → Prop where
  | checked {r : Ref} {early : Bool} : s.isPending r = true →
      GoesOn s (.holding r early) (.checked r early)
  | decided {r : Ref} {early : Bool} : GoesOn s (.checked r early) (s.pumpDecide r early)
  | resumed {r : Ref} {wakeAt : Instant} : wakeAt ≤ s.now →
      GoesOn s (.pausing r wakeAt) (.handing r)
  | failed {r : Ref} {failure : Failure} {reason : String} : s.isPending r = true →
      GoesOn s (.withdrawn r failure) (.failed r reason)
  | faulted {phase : PumpPhase} {r : Ref} (failure : Failure) : phase.canFault = true →
      phase.record? = some r → GoesOn s phase (.faulted r failure)

/-- What the pump does about a hand-off that has failed once more. -/
inductive AfterFailure (s : System α) (r : Ref) : PumpPhase → Prop where
  | rejecting {reason : String} :
      (∀ x, s.record? r = some x → s.config.retryLimit ≤ x.noteHandoffFailure.failedHandoffs) →
      AfterFailure s r (.rejecting r reason)
  | postponing (backoff : Duration) :
      (∀ x, s.record? r = some x → x.noteHandoffFailure.failedHandoffs < s.config.retryLimit) →
      AfterFailure s r (.postponing r backoff)

theorem AfterFailure.record {r : Ref} {next : PumpPhase} (h : AfterFailure s r next) :
    next.record? = some r := by cases h <;> rfl

theorem pumpDecide_record (s : System α) (r : Ref) (early : Bool) :
    (s.pumpDecide r early).record? = some r := by
  unfold pumpDecide
  split
  · rfl
  · split
    · rfl
    · split <;> rfl

theorem GoesOn.record {phase next : PumpPhase} (h : GoesOn s phase next) :
    ∃ r, phase.record? = some r ∧ next.record? = some r := by
  cases h with
  | decided => exact ⟨_, rfl, pumpDecide_record ..⟩
  | faulted failure _ hrecord => exact ⟨_, hrecord, rfl⟩
  | _ => exact ⟨_, rfl, rfl⟩

/-- The effects of the sections of the pump. -/
inductive PumpMove (s : System α) : System α → Prop where
  /-- The first entry leaves the delay queue. -/
  | took {k : Key} {r : Ref} {rest : List (Key × Ref)} :
      s.pump = some .waiting → s.queue.entries = (k, r) :: rest →
      k.trigger ≤ s.now ∨ s.queue.closed = true →
      PumpMove s { s with
        queue := { s.queue with entries := rest, depthGauge := some rest.length }
        pump := some (.holding r (decide (s.now < k.trigger))) }
  | idled : s.pump = some .waiting → s.queue.entries = [] → s.queue.closed = false →
      PumpMove s { s with queue := { s.queue with consumerActive := false }, pump := none }
  | drained : s.pump = some .waiting → s.queue.entries = [] → s.queue.closed = true →
      PumpMove s { s with
        queue := { s.queue with consumerActive := false }, pump := some .stopping }
  /-- The record in hand is not pending any more. -/
  | passedOver {phase : PumpPhase} {r : Ref} : s.pump = some phase → phase.record? = some r →
      phase.looks = true → s.isPending r = false → PumpMove s { s with pump := some .waiting }
  | wentOn {phase next : PumpPhase} : s.pump = some phase → GoesOn s phase next →
      PumpMove s { s with pump := some next }
  | gaveUp {r : Ref} : s.pump = some (.cancelling r) →
      PumpMove s { s with records := s.records.modify r (·.giveUp.1), pump := some .waiting }
  /-- The record is in the run queue. -/
  | handedOver {r : Ref} (choice : Nat) : s.pump = some (.handing r) →
      (s.pool.execute r choice).answer = .ok () →
      PumpMove s { s with pool := (s.pool.execute r choice).pool, pump := some .waiting }
  | refused {r : Ref} {error : PoolError} (choice : Nat) : s.pump = some (.handing r) →
      (s.pool.execute r choice).answer = .error error →
      PumpMove s { s with
        pool := (s.pool.execute r choice).pool, pump := some (.failed r error.text) }
  | unwound {r : Ref} {failure : Failure} (choice : Nat) : s.pump = some (.handing r) →
      (s.pool.execute r choice).answer = .unwound failure →
      PumpMove s { s with
        pool := (s.pool.execute r choice).pool, pump := some (.faulted r failure) }
  | withdrew {r : Ref} {failure : Failure} : s.pump = some (.faulted r failure) →
      PumpMove s { s with
        pool := (s.pool.withdraw r).1, pump := some (.withdrawn r failure) }
  /-- A failed hand-off has been noted. -/
  | noted {r : Ref} {reason : String} {next : PumpPhase} : s.pump = some (.failed r reason) →
      AfterFailure s r next →
      PumpMove s { s with records := s.records.modify r (·.noteHandoffFailure), pump := some next }
  | rejected {r : Ref} {reason : String} : s.pump = some (.rejecting r reason) →
      PumpMove s { s with
        records := s.records.modify r fun record => (record.reject reason).1
        pump := some .waiting }
  | postponed {r : Ref} {backoff : Duration} : s.pump = some (.postponing r backoff) →
      PumpMove s { s with
        records := s.records.modify r (·.postpone (deadline s.clockEnd s.now backoff))
        pump := some (.offering r) }
  /-- The record is in the delay queue again, if it is pending. -/
  | returned {r : Ref} : s.pump = some (.offering r) →
      PumpMove s { s with
        queue := s.queue.putBack (s.isPending r) (s.key r) r, pump := some .waiting }
  /-- The pool is closed; a panic of the factory ends the pump there. -/
  | stopped {next : Option PumpPhase} : s.pump = some .stopping →
      next = some .awaiting ∨ (∃ failure, next = some (.collapsed failure)) →
      PumpMove s { s with
        records := s.afterShutdown, pool := s.pool.shutdown.pool, pump := next }
  | sawDrained : s.pump = some .awaiting → s.pool.hasDrained = true →
      PumpMove s { s with pump := some .marking }
  | concluded : s.pump = some .marking →
      PumpMove s { s with lifecycle := s.lifecycle.conclude, pump := none }

theorem pumpTake_move {idleElapsed : Bool} (hpump : s.pump = some .waiting)
    (h : s.pumpTake idleElapsed = some s') : ∃ t, PumpMove s t ∧ s'.core = t.core := by
  unfold pumpTake DelayQueue.take? at h
  split at h
  next r early queue htake =>
    split at htake
    next k r' rest hentries =>
      split at htake
      next hdue =>
        cases htake
        cases h
        exact ⟨_, .took hpump hentries hdue, rfl⟩
      next => cases htake
    next hentries =>
      split at htake
      next => cases htake
      next => split at htake <;> cases htake
  next queue htake =>
    split at htake
    next => split at htake <;> cases htake
    next hentries =>
      split at htake
      next => cases htake
      next hopen =>
        split at htake
        next =>
          cases htake
          cases h
          exact ⟨_, .idled hpump hentries (by simpa using hopen), rfl⟩
        next => cases htake
  next queue htake =>
    split at htake
    next => split at htake <;> cases htake
    next hentries =>
      split at htake
      next hclosed =>
        cases htake
        cases h
        exact ⟨_, .drained hpump hentries hclosed, rfl⟩
      next => split at htake <;> cases htake
  next => cases h

theorem rejectStranded_core (error : PoolError) (s : System α) (r : Ref) :
    (rejectStranded error s r).core =
      (s.update r fun record => (record.reject (strandedReason error)).1).core :=
  reject_core _ r _

theorem foldl_rejectStranded_core (error : PoolError) (stranded : List Ref) {s t : System α}
    (h : s.core = t.core) :
    (stranded.foldl (rejectStranded error) s).core =
      { t.core with records := rejectAll t.records (strandedReason error) stranded } := by
  induction stranded generalizing s t with
  | nil => exact h
  | cons r rest ih =>
    have hfirst : (rejectStranded error s r).core =
        (t.update r fun record => (record.reject (strandedReason error)).1).core :=
      (rejectStranded_core error s r).trans (update_congr h r _)
    exact ih hfirst

theorem shutdownPool_core (s : System α) :
    s.shutdownPool.1.core =
      ({ s with records := s.afterShutdown, pool := s.pool.shutdown.pool } : System α).core := by
  unfold shutdownPool afterShutdown
  rcases s.pool.shutdown with ⟨pool, answer, events⟩
  cases answer with
  | ok value =>
    cases value with
    | none => rfl
    | some stranded => exact foldl_rejectStranded_core stranded.1 stranded.2 rfl
  | error error => rfl
  | unwound failure => rfl

theorem pumpGiveUp_move {r : Ref} (hpump : s.pump = some (.cancelling r)) :
    ∃ t, PumpMove s t ∧ (s.pumpGiveUp r).core = t.core :=
  ⟨_, .gaveUp hpump,
    congrArg (fun u : System α => { u with pump := some .waiting }) (giveUp_core s r)⟩

theorem pumpFail_move {r : Ref} {reason : String} (hpump : s.pump = some (.failed r reason)) :
    ∃ t, PumpMove s t ∧ (s.pumpFail r reason).core = t.core := by
  have hnoted : (s.records.modify r (·.noteHandoffFailure))[r]? =
      (s.record? r).map (·.noteHandoffFailure) := by rw [record?_modify]; simp
  unfold pumpFail
  simp only
  split
  next hlimit =>
    refine ⟨_, .noted hpump (.rejecting fun x hx => ?_), rfl⟩
    rw [hx] at hnoted
    simpa [noteHandoffFailure, update, record?, hnoted] using hlimit
  next hlimit =>
    refine ⟨_, .noted hpump (.postponing _ fun x hx => ?_), rfl⟩
    rw [hx] at hnoted
    simpa [noteHandoffFailure, update, record?, hnoted] using hlimit

theorem pumpHand_move {choice : Nat} {r : Ref} (hpump : s.pump = some (.handing r))
    (h : s.pumpStep choice = some s') : ∃ t, PumpMove s t ∧ s'.core = t.core := by
  unfold pumpStep execute at h
  rw [hpump] at h
  simp only at h
  split at h
  next heq =>
    obtain ⟨rfl, hanswer⟩ := Prod.mk.inj heq
    cases h
    exact ⟨_, .handedOver choice hpump hanswer, rfl⟩
  next heq =>
    obtain ⟨rfl, hanswer⟩ := Prod.mk.inj heq
    cases h
    exact ⟨_, .refused choice hpump hanswer, rfl⟩
  next heq =>
    obtain ⟨rfl, hanswer⟩ := Prod.mk.inj heq
    cases h
    exact ⟨_, .unwound choice hpump hanswer, rfl⟩

theorem pumpStop_move {choice : Nat} (hpump : s.pump = some .stopping)
    (h : s.pumpStep choice = some s') : ∃ t, PumpMove s t ∧ s'.core = t.core := by
  have hcore := shutdownPool_core (s.report [.queueDrained s.name])
  unfold pumpStep at h
  rw [hpump] at h
  simp only at h
  generalize hstop : (s.report [.queueDrained s.name]).shutdownPool = stop at h hcore
  obtain ⟨u, failure⟩ := stop
  cases failure with
  | none =>
    cases h
    exact ⟨_, .stopped hpump (.inl rfl),
      congrArg (fun u : System α => { u with pump := some .awaiting }) hcore⟩
  | some failure =>
    cases h
    exact ⟨_, .stopped hpump (.inr ⟨failure, rfl⟩),
      congrArg (fun u : System α => { u with pump := some (.collapsed failure) }) hcore⟩

/-- A section of the pump does what one of the moves says. -/
theorem pumpStep_move {choice : Nat} (h : s.pumpStep choice = some s') :
    ∃ t, PumpMove s t ∧ s'.core = t.core := by
  have hstep := h
  unfold pumpStep at h
  split at h
  next => cases h
  next hpump => exact pumpTake_move hpump h
  next r early hpump =>
    cases h
    cases hpending : s.isPending r with
    | true =>
      exact ⟨{ s with pump := some (.checked r early) }, .wentOn hpump (.checked hpending), rfl⟩
    | false => exact ⟨_, .passedOver hpump rfl rfl hpending, rfl⟩
  next r early hpump =>
    have hgoes : GoesOn s (.checked r early) (s.pumpDecide r early) := .decided
    split at h
    next r' hdecide =>
      cases h
      rw [hdecide] at hgoes
      exact ⟨{ s with pump := some (.handing r') }, .wentOn hpump hgoes, rfl⟩
    next =>
      cases h
      exact ⟨_, .wentOn hpump hgoes, rfl⟩
  next r hpump =>
    cases h
    exact pumpGiveUp_move hpump
  next r wakeAt hpump =>
    split at h
    next hawake =>
      cases h
      exact ⟨{ s with pump := some (.handing r) }, .wentOn hpump (.resumed hawake), rfl⟩
    next => cases h
  next r hpump => exact pumpHand_move hpump hstep
  next r failure hpump =>
    cases h
    exact ⟨_, .withdrew hpump, rfl⟩
  next r failure hpump =>
    cases h
    cases hpending : s.isPending r with
    | true =>
      exact ⟨{ s with pump := some (.failed r _) }, .wentOn hpump (.failed hpending), rfl⟩
    | false => exact ⟨_, .passedOver hpump rfl rfl hpending, rfl⟩
  next r reason hpump =>
    cases h
    exact pumpFail_move hpump
  next r reason hpump =>
    cases h
    exact ⟨_, .rejected hpump,
      congrArg (fun u : System α => { u with pump := some .waiting }) (reject_core s r reason)⟩
  next r backoff hpump =>
    cases h
    exact ⟨_, .postponed hpump, rfl⟩
  next r hpump =>
    cases h
    exact ⟨_, .returned hpump, rfl⟩
  next hpump => exact pumpStop_move hpump hstep
  next hpump =>
    split at h
    next hdrained =>
      cases h
      exact ⟨_, .sawDrained hpump hdrained, rfl⟩
    next => cases h
  next hpump =>
    cases h
    exact ⟨_, .concluded hpump, rfl⟩
  next => cases h

theorem pumpIdle_move (h : s.pumpIdle = some s') : ∃ t, PumpMove s t ∧ s'.core = t.core := by
  unfold pumpIdle at h
  split at h
  next hidle =>
    rw [Bool.and_eq_true, Bool.and_eq_true, decide_eq_true_eq] at hidle
    exact pumpTake_move hidle.1.1 h
  next => cases h

theorem pumpFault_move {failure : Failure} (h : s.pumpFault failure = some s') :
    ∃ t, PumpMove s t ∧ s'.core = t.core := by
  unfold pumpFault at h
  split at h
  case h_5 => cases h
  all_goals
    next hpump =>
      cases h
      exact ⟨{ s with pump := some (.faulted _ failure) },
        .wentOn hpump (.faulted failure rfl rfl), rfl⟩

end System

end TaskScheduler
