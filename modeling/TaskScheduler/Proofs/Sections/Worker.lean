import TaskScheduler.System.Step
import TaskScheduler.Proofs.Sections.Core
import TaskScheduler.Proofs.Pool.Growth

/-
  What a section of a worker does to the service.

  `WorkerMove s a t`: the action `a` of a worker leads from `s` to `t`, with one constructor for
  each edge of the loop of a worker. `workerStep_move`, `workerExpires_move`, `bodyEnds_move`: a
  worker does nothing else, up to what is only counted or reported.
-/
namespace TaskScheduler.System

variable {α : Type} {s s' : System α} {i : Nat}

/-- The effects of the sections of a worker, each with the action that brings it about. -/
inductive WorkerMove (s : System α) : Action α → System α → Prop where
  /-- The worker comes back to the run queue. -/
  | looked {i : Nat} {pool : Pool} : s.pool.look i = some pool →
      WorkerMove s (.worker i) { s with pool }
  | expired {i : Nat} {pool : Pool} : s.pool.expire i = some pool →
      WorkerMove s (.workerExpires i) { s with pool }
  | counted {i : Nat} {pool : Pool} : s.pool.countRun i = some pool →
      WorkerMove s (.worker i) { s with pool }
  /-- The record is about to run. -/
  | began {i : Nat} {r : Ref} {record : Record α} : s.pool.phase? i = some (.picked r) →
      s.record? r = some record → record.state = .pending →
      WorkerMove s (.worker i) { s with
        records := s.records.modify r fun record => { record with state := .running }
        pool := s.pool.setPhase i (.begun r) }
  | passedOver {i : Nat} {r : Ref} : s.pool.phase? i = some (.picked r) → s.isPending r = false →
      WorkerMove s (.worker i) { s with pool := s.pool.setPhase i (.ran r) }
  /-- The body of the record is called. -/
  | entered {i : Nat} {r : Ref} : s.pool.phase? i = some (.begun r) → (s.enterBody r).2 = true →
      WorkerMove s (.worker i) { s with
        records := s.records.modify r (·.enterBody.1)
        pool := s.pool.setPhase i (.running r) }
  /-- There is no body left to call. -/
  | spent {i : Nat} {r : Ref} : s.pool.phase? i = some (.begun r) → (s.enterBody r).2 = false →
      WorkerMove s (.worker i) { s with
        records := s.records.modify r fun record =>
          (record.enterBody.1.complete s.clockEnd s.now .spent).1
        pool := s.pool.setPhase i (.ran r) }
  /-- The body has ended, and the record is not to run again. -/
  | finished {i : Nat} {r : Ref} {result : Except Failure α} :
      s.pool.phase? i = some (.running r) →
      (∀ record, s.record? r = some record →
        (record.complete s.clockEnd s.now (.ofExcept result)).2.1 = .finished) →
      WorkerMove s (.bodyEnds i result) { s with
        records := s.records.modify r fun record =>
          (record.complete s.clockEnd s.now (.ofExcept result)).1
        pool := s.pool.setPhase i (.ran r) }
  | rescheduled {i : Nat} {r : Ref} {record : Record α} {result : Except Failure α} :
      s.pool.phase? i = some (.running r) → s.record? r = some record →
      (record.complete s.clockEnd s.now (.ofExcept result)).2.1 = .reschedule →
      WorkerMove s (.bodyEnds i result) { s with
        records := s.records.modify r fun record =>
          (record.complete s.clockEnd s.now (.ofExcept result)).1
        pool := s.pool.setPhase i (.requeueing r) }
  /-- A periodic record has been offered to the delay queue. -/
  | requeued {i : Nat} {r : Ref} {queue : DelayQueue} {needsPump : Bool} :
      s.pool.phase? i = some (.requeueing r) →
      s.queue.offer (s.isPending r) (s.key r) r = some (queue, needsPump) →
      WorkerMove s (.worker i) { s with
        queue
        pool := s.pool.setPhase i (if needsPump then .startingPump r (s.key r) else .ran r) }
  | refused {i : Nat} {r : Ref} : s.pool.phase? i = some (.requeueing r) →
      s.queue.closed = true →
      WorkerMove s (.worker i) { s with pool := s.pool.setPhase i (.refused r) }
  | gaveUp {i : Nat} {r : Ref} : s.pool.phase? i = some (.refused r) →
      WorkerMove s (.worker i) { s with
        records := s.records.modify r (·.giveUp.1), pool := s.pool.setPhase i (.ran r) }
  | launched {i : Nat} {r : Ref} {k : Key} : s.pool.phase? i = some (.startingPump r k) →
      s.pump = none → s.pumpNameFault? = none →
      WorkerMove s (.worker i) { s with
        pump := some .waiting, pool := s.pool.setPhase i (.ran r) }
  /-- The thread of the pump is refused. -/
  | unlaunched {i : Nat} {r : Ref} {k : Key} {reason : String} :
      s.pool.phase? i = some (.startingPump r k) → s.pump = none → s.pumpNameFault? = none →
      WorkerMove s (.workerRefused i reason) { s with
        queue := s.queue.releaseConsumer, pool := s.pool.setPhase i (.retracting r k reason) }
  | retracted {i : Nat} {r : Ref} {k : Key} {reason : String} :
      s.pool.phase? i = some (.retracting r k reason) →
      WorkerMove s (.worker i) { s with
        queue := (s.queue.remove k).1, pool := s.pool.setPhase i (.rejecting r reason) }
  | rejected {i : Nat} {r : Ref} {reason : String} :
      s.pool.phase? i = some (.rejecting r reason) →
      WorkerMove s (.worker i) { s with
        records := s.records.modify r fun record => (record.reject (pumpRefusal reason).text).1
        pool := s.pool.setPhase i (.ran r) }

theorem setPhase_setPhase (p : Pool) (i : Nat) (phase phase' : WorkerPhase) :
    (p.setPhase i phase).setPhase i phase' = p.setPhase i phase' := by
  unfold Pool.setPhase
  simp only [List.modify_modify_eq]
  rfl

theorem setWorker_core {t : System α} (h : s.core = t.core) (phase : WorkerPhase) :
    (s.setWorker i phase).core = ({ t with pool := t.pool.setPhase i phase } : System α).core := by
  have hpool := congrArg System.pool h
  have hpool' : s.pool = t.pool := hpool
  rw [setWorker, hpool']
  exact congrArg (fun u : System α => { u with pool := t.pool.setPhase i phase }) h

theorem complete_spent (record : Record α) (last now : Instant) :
    (record.complete last now .spent).2.1 = .finished := by
  unfold Record.complete
  split <;> rfl

theorem completeRun_after (s : System α) (r : Ref) (result : BodyResult α) :
    (s.completeRun r result).2 =
      ((s.record? r).map fun record => (record.complete s.clockEnd s.now result).2.1).getD
        .finished := by
  unfold completeRun
  cases hr : s.record? r with
  | none => rfl
  | some record =>
    rcases hc : record.complete s.clockEnd s.now result with ⟨record', after, finish⟩
    cases finish <;> simp [hc]

theorem bodyEnds_move {result : Except Failure α} (h : s.bodyEnds i (.ofExcept result) = some s') :
    ∃ t, WorkerMove s (.bodyEnds i result) t ∧ s'.core = t.core := by
  unfold bodyEnds at h
  split at h
  next r hphase =>
    have hcore := completeRun_core s r (.ofExcept result)
    have hafter := completeRun_after s r (.ofExcept result)
    rw [update_core] at hcore
    generalize s.completeRun r (.ofExcept result) = outcome at h hcore hafter
    obtain ⟨u, after⟩ := outcome
    cases after with
    | finished =>
      cases h
      refine ⟨_, .finished hphase ?_, setWorker_core hcore _⟩
      intro record hrecord
      rw [hrecord] at hafter
      exact hafter.symm
    | reschedule =>
      cases h
      cases hrecord : s.record? r with
      | none =>
        rw [hrecord] at hafter
        cases hafter
      | some record =>
        rw [hrecord] at hafter
        exact ⟨_, .rescheduled hphase hrecord hafter.symm, setWorker_core hcore _⟩
  next => cases h

theorem bodyEnds_spent {r : Ref} (hphase : s.pool.phase? i = some (.running r)) :
    s.bodyEnds i .spent = some ((s.completeRun r .spent).1.setWorker i (.ran r)) := by
  have hafter := completeRun_after s r .spent
  unfold bodyEnds
  rw [hphase]
  simp only
  generalize s.completeRun r .spent = outcome at hafter
  obtain ⟨u, after⟩ := outcome
  have hfinished : after = .finished := by
    cases hr : s.record? r with
    | none => simpa [hr] using hafter
    | some record => simpa [hr, complete_spent] using hafter
  rw [hfinished]

/-- A run that finds no body left to call is over at once. -/
theorem workerEnter_spent_core {r : Ref} (hphase : s.pool.phase? i = some (.begun r))
    (hbody : (s.enterBody r).2 = false) :
    (s.workerEnter i r).core = ({ s with
      records := s.records.modify r fun record =>
        (record.enterBody.1.complete s.clockEnd s.now .spent).1
      pool := s.pool.setPhase i (.ran r) } : System α).core := by
  have hcore := enterBody_core s r
  unfold workerEnter
  generalize s.enterBody r = entered at hbody hcore
  obtain ⟨u, called⟩ := entered
  obtain rfl : called = false := hbody
  have hv := setWorker_core hcore (i := i) (.running r)
  simp only
  generalize u.setWorker i (.running r) = v at hv
  have hpool : v.pool = s.pool.setPhase i (.running r) := congrArg (fun w => w.pool) hv
  have hend : v.clockEnd = s.clockEnd := congrArg (fun w => w.clockEnd) hv
  have hnow : v.now = s.now := congrArg (fun w => w.now) hv
  have hvphase : v.pool.phase? i = some (.running r) := by
    rw [hpool]
    exact Pool.phase?_setPhase_self hphase _
  rw [bodyEnds_spent hvphase, Option.getD_some]
  have hrun := completeRun_core v r .spent
  rw [hend, hnow] at hrun
  rw [setWorker_core (hrun.trans (update_congr hv r _)) (.ran r)]
  simp only [update, setPhase_setPhase, List.modify_modify_eq]
  rfl

theorem workerRequeue_move {r : Ref} (hphase : s.pool.phase? i = some (.requeueing r)) :
    ∃ t, WorkerMove s (.worker i) t ∧ (s.workerRequeue i r).core = t.core := by
  unfold workerRequeue offer
  cases hoffer : s.queue.offer (s.isPending r) (s.key r) r with
  | none =>
    refine ⟨_, .refused hphase ?_, rfl⟩
    unfold DelayQueue.offer at hoffer
    split at hoffer
    next hclosed => exact hclosed
    next => cases hoffer
  | some offered =>
    obtain ⟨queue, needsPump⟩ := offered
    cases needsPump with
    | true => exact ⟨_, .requeued hphase hoffer, rfl⟩
    | false => exact ⟨_, .requeued hphase hoffer, rfl⟩

theorem workerLook_move (h : s.workerLook i = some s') :
    ∃ t, WorkerMove s (.worker i) t ∧ s'.core = t.core := by
  obtain ⟨pool, hlook, rfl⟩ := Option.map_eq_some_iff.mp h
  exact ⟨_, .looked hlook, rfl⟩

/-- A section of a worker does what one of the moves says. -/
theorem workerStep_move (h : s.workerStep i = some s') :
    ∃ t, WorkerMove s (.worker i) t ∧ s'.core = t.core := by
  unfold workerStep at h
  split at h
  next r hphase =>
    rcases beginRun_cases s r with ⟨hsame, hpending⟩ | ⟨record, hrecord, hstate, hbegun, hcore⟩
    · rw [hsame] at h
      cases h
      exact ⟨_, .passedOver hphase hpending, rfl⟩
    · generalize s.beginRun r = begun at h hbegun hcore
      obtain ⟨u, started⟩ := begun
      obtain rfl : started = true := hbegun
      cases h
      exact ⟨_, .began hphase hrecord hstate, setWorker_core hcore _⟩
  next r hphase =>
    cases h
    cases hbody : (s.enterBody r).2 with
    | true =>
      refine ⟨_, .entered hphase hbody, ?_⟩
      have hcore := enterBody_core s r
      unfold workerEnter
      generalize s.enterBody r = entered at hbody hcore
      obtain ⟨u, called⟩ := entered
      obtain rfl : called = true := hbody
      exact setWorker_core hcore _
    | false => exact ⟨_, .spent hphase hbody, workerEnter_spent_core hphase hbody⟩
  next r hphase =>
    cases h
    exact workerRequeue_move hphase
  next r hphase =>
    cases h
    exact ⟨_, .gaveUp hphase, setWorker_core (giveUp_core s r) _⟩
  next r hphase =>
    split at h
    next hcan =>
      cases h
      rw [Bool.and_eq_true, Option.isNone_iff_eq_none, Option.isNone_iff_eq_none] at hcan
      exact ⟨_, .launched hphase hcan.1 hcan.2, rfl⟩
    next => cases h
  next hphase =>
    cases h
    exact ⟨_, .retracted hphase, rfl⟩
  next r reason hphase =>
    cases h
    exact ⟨_, .rejected hphase, setWorker_core (reject_core s r _) _⟩
  next r hphase =>
    obtain ⟨pool, hcount, rfl⟩ := Option.map_eq_some_iff.mp h
    exact ⟨_, .counted hcount, rfl⟩
  next => exact workerLook_move h

theorem workerRefused_move {reason : String} (h : s.workerRefused i reason = some s') :
    ∃ t, WorkerMove s (.workerRefused i reason) t ∧ s'.core = t.core := by
  unfold workerRefused at h
  split at h
  next hphase =>
    obtain ⟨u, hrefused, rfl⟩ := Option.map_eq_some_iff.mp h
    obtain ⟨hpump, hname, rfl⟩ := refusePump_eq_some hrefused
    exact ⟨_, .unlaunched hphase hpump hname, rfl⟩
  next => cases h

theorem workerExpires_move (h : s.workerExpires i = some s') :
    ∃ t, WorkerMove s (.workerExpires i) t ∧ s'.core = t.core := by
  obtain ⟨pool, hexpire, rfl⟩ := Option.map_eq_some_iff.mp h
  exact ⟨_, .expired hexpire, rfl⟩

end TaskScheduler.System
