import Mathlib.Algebra.Order.BigOperators.Group.List
import Mathlib.Algebra.Order.Ring.Nat
import TaskScheduler.Proofs.OnePump
import TaskScheduler.Proofs.Reserved

/-
  The work that the workers and a batch have before them.

  `Pool.toil` counts the sections that are left to the workers before all of them rest, and
  `Batch.toil` those of a batch. Nothing but the sections of the workers, the ends of bodies and the
  sections of the batch `serves` the batch, and each of these steps takes something off
  (`serve_toil`), so that no run of them goes on for ever (`serving_run_le`). When none of them is
  left, every worker is parked or has left (`Rests.resting`), what belongs to the batch and was
  accepted has come to its end (`Rests.isFinal`), and the batch is over or waits for an outcome
  (`Rests.batch`), which can then be nothing but there.
-/
namespace TaskScheduler

/-- The sections that a worker has before it rests, if no record waits. -/
def WorkerPhase.toil : WorkerPhase → Nat
  | picked _ => 9
  | begun _ => 8
  | running _ => 7
  | requeueing _ => 6
  | startingPump .. => 5
  | retracting .. => 4
  | refused _ | rejecting .. => 3
  | ran _ => 2
  | starting | woken _ | counted => 1
  | parked | exited => 0

theorem sum_map_modify_add {β : Type} {l : List β} {i : Nat} {a : β} (h : l[i]? = some a)
    (g : β → β) (f : β → Nat) :
    ((l.modify i g).map f).sum + f a = (l.map f).sum + f (g a) := by
  rw [modify_eq_set_of_getElem? h]
  induction l generalizing i with
  | nil => cases h
  | cons b l ih =>
    cases i with
    | zero =>
      obtain rfl : b = a := Option.some.inj h
      rw [List.set_cons_zero, List.map_cons, List.map_cons, List.sum_cons, List.sum_cons]
      omega
    | succ i =>
      have hi := ih h
      rw [List.set_cons_succ, List.map_cons, List.map_cons, List.sum_cons, List.sum_cons]
      omega

namespace Pool

variable {p p' : Pool} {n i : Nat}

/-- The sections that the workers have before all of them rest. -/
def toil (p : Pool) : Nat := 9 * p.queue.length + (p.workers.map (·.phase.toil)).sum

theorem toil_setPhase {q : Pool} {old : WorkerPhase} (hworkers : q.workers = p.workers)
    (h : p.phase? i = some old) (phase : WorkerPhase) :
    (q.setPhase i phase).toil + 9 * p.queue.length + old.toil =
      p.toil + 9 * q.queue.length + phase.toil := by
  obtain ⟨w, hw, rfl⟩ := phase?_eq_some.mp h
  have hsum : ((p.workers.modify i fun w => { w with phase }).map (·.phase.toil)).sum +
      w.phase.toil = (p.workers.map (·.phase.toil)).sum + phase.toil :=
    sum_map_modify_add hw _ _
  show 9 * q.queue.length + ((q.workers.modify i _).map (·.phase.toil)).sum + _ + w.phase.toil = _
  rw [hworkers, toil]
  omega

/-- The workers have less before them after a worker has gone on. -/
theorem toil_lt {q : Pool} {old phase : WorkerPhase} (hworkers : q.workers = p.workers)
    (h : p.phase? i = some old)
    (hlt : 9 * q.queue.length + phase.toil < 9 * p.queue.length + old.toil) :
    (q.setPhase i phase).toil < p.toil := by
  have hset := toil_setPhase hworkers h phase
  omega

theorem Grew.toil (h : Grew p n p') : p'.toil = p.toil + n := by
  obtain ⟨new, hworkers, rfl, hnew⟩ := h.workers
  have hsum : (new.map (·.phase.toil)).sum = new.length := by
    rw [List.map_congr_left (g := fun _ => 1) fun w hw => by rw [hnew w hw]; rfl]
    simp
  rw [Pool.toil, h.queue, hworkers, List.map_append, List.sum_append, hsum, Pool.toil]
  omega

theorem toil_push (p : Pool) (r : Ref) :
    ({ p with queue := p.queue ++ [r] } : Pool).toil = p.toil + 9 := by
  rw [toil, toil, List.length_append, List.length_singleton, Nat.mul_add]
  exact Nat.add_right_comm _ _ _

/-- A hand-off gives the workers one more record, and wakes or starts one worker at most. -/
theorem execute_toil (p : Pool) (r : Ref) (choice : Nat) :
    (p.execute r choice).pool.toil ≤ p.toil + 10 := by
  have hres := execute_result p r choice
  generalize p.execute r choice = e at hres
  have hpush := p.toil_push r
  cases hres with
  | closed _ => exact Nat.le_add_right _ _
  | woke choice' _ _ =>
    show (Pool.notifyOne { p with queue := p.queue ++ [r] } choice').toil ≤ p.toil + 10
    rcases notifyOne_cases { p with queue := p.queue ++ [r] } choice' with
      ⟨-, hsame⟩ | ⟨i, hi, hwoken⟩
    · rw [hsame]
      omega
    · have hset := toil_setPhase rfl hi (.woken false)
      rw [WorkerPhase.toil, WorkerPhase.toil] at hset
      rw [hwoken]
      omega
  | @grew grown events _ _ hg _ _ _ _ =>
    have hgrown := hg.toil
    show grown.toil ≤ p.toil + 10
    omega
  | refused reason _ hm _ _ _ _ =>
    rw [hm.grew.toil]
    exact Nat.le_add_right _ 10
  | @notGrown same events _ _ hm _ _ _ =>
    have hgrown := hm.grew.toil
    show same.toil ≤ p.toil + 10
    omega
  | @unwound same failure _ _ hm _ =>
    have hgrown := hm.grew.toil
    show same.toil ≤ p.toil + 10
    omega
  | full _ _ _ => exact hpush ▸ Nat.le_succ _

/-- A worker that comes back to the run queue picks a record up, or rests. -/
theorem look_toil (h : p.look i = some p') : p'.toil < p.toil := by
  obtain ⟨phase, hphase, hback, hres⟩ := look_result h
  have hone : phase.toil = 1 := by cases phase <;> first | rfl | cases hback
  have hworkers := back_workers p phase
  cases hres with
  | @picked r rest hqueue =>
    refine toil_lt hworkers hphase ?_
    rw [hqueue, hone, List.length_cons]
    exact Nat.lt_succ_self _
  | parked hnil _ _ =>
    refine toil_lt hworkers hphase ?_
    show 9 * (p.back phase).queue.length + 0 < _
    rw [back_queue, hone]
    exact Nat.lt_succ_self _
  | left hnil _ =>
    refine toil_lt hworkers hphase ?_
    show 9 * (p.back phase).queue.length + 0 < _
    rw [back_queue, hone]
    exact Nat.lt_succ_self _

theorem countRun_toil (h : p.countRun i = some p') : p'.toil < p.toil := by
  unfold countRun at h
  split at h <;> cases h
  next hphase => exact toil_lt rfl hphase (Nat.lt_succ_self _)

/-- A worker that comes back to the run queue can look at it. -/
theorem look_ne_none {phase : WorkerPhase} (hphase : p.phase? i = some phase)
    (hback : comesBack phase = true) : p.look i ≠ none := by
  unfold look
  rw [hphase]
  cases phase with
  | woken timedOut =>
    simp only
    split <;> nofun
  | starting | counted => nofun
  | _ => cases hback

end Pool

/-- The sections that a submission has before it, for work that is to start at once. A record that
is handed over may give the workers ten more. -/
def Submission.toil : Submission → Nat
  | arriving => 15
  | executing _ => 14
  | counting .. => 3
  | explaining _ => 1
  | _ => 0

/-- The sections that a cancellation has before it. -/
def Withdrawal.toil : Withdrawal → Nat
  | asking .. => 3
  | removing .. => 2
  | counting _ => 1
  | answered .. => 0

namespace Batch

variable {α : Type}

/-- The sections that a batch has before it, and those that it may give the workers. -/
def toil : Batch α → Nat
  | submitting accepted current left => current.toil + 18 * left + 3 * accepted.length + 2
  | cancelling _ current left => current.toil + 3 * left.length
  | collecting _ left => left.length + 1
  | _ => 0

theorem toil_afterFailed (error : ServiceError) (left : List Ref) :
    (afterFailed error left : Batch α).toil = 3 * left.length := by
  cases left with
  | nil => rfl
  | cons r rest => exact Nat.add_comm _ _

theorem toil_afterAccepted (accepted : List Ref) (left : Nat) :
    (afterAccepted accepted left : Batch α).toil ≤ 18 * left + 3 * accepted.length + 1 := by
  cases left with
  | zero =>
    show accepted.length + 1 ≤ _
    omega
  | succ left =>
    show 15 + 18 * left + 3 * accepted.length + 2 ≤ _
    omega

/-- The batch has come to its end. -/
def isOver : Batch α → Bool
  | finished _ | failed _ | aborted _ => true
  | _ => false

end Batch

/-- The action is the section of a worker, the end of a body or a section of the `i`-th call. -/
def Action.serves {α : Type} (i : Nat) : Action α → Bool
  | worker _ | bodyEnds .. => true
  | call j _ => j == i
  | _ => false

namespace System

variable {α : Type} {s s' t u : System α} {a : Action α} {r : Ref} {i choice : Nat}
  {stage stage' : Batch α}

/-! ## Every step takes something off -/

/-- A worker that goes on has less before it. -/
theorem WorkerMove.toil_lt (h : WorkerMove s a t) (hnot : ∀ j, a ≠ .workerExpires j) :
    t.pool.toil < s.pool.toil := by
  have hgoes : ∀ {j : Nat} {old phase : WorkerPhase}, s.pool.phase? j = some old →
      phase.toil < old.toil → (s.pool.setPhase j phase).toil < s.pool.toil :=
    fun hphase hlt => Pool.toil_lt rfl hphase (Nat.add_lt_add_left hlt _)
  cases h with
  | looked hlook => exact Pool.look_toil hlook
  | expired _ => exact absurd rfl (hnot _)
  | counted hcount => exact Pool.countRun_toil hcount
  | @requeued j r queue needsPump hphase _ =>
    refine hgoes hphase ?_
    cases needsPump <;> simp [WorkerPhase.toil]
  | began hphase | passedOver hphase | entered hphase | spent hphase | finished hphase
  | rescheduled hphase | refused hphase | gaveUp hphase | launched hphase | unlaunched hphase
  | retracted hphase | rejected hphase =>
    exact hgoes hphase (by simp [WorkerPhase.toil])

theorem BatchMove.toil_lt (h : BatchMove s choice stage u stage') :
    u.pool.toil + stage'.toil < s.pool.toil + stage.toil := by
  have hkept : u.pool = s.pool → stage'.toil < stage.toil →
      u.pool.toil + stage'.toil < s.pool.toil + stage.toil := by
    intro hpool hlt
    rw [hpool]
    exact Nat.add_lt_add_left hlt _
  have hexecute : ∀ {r : Ref}, u.pool = (s.pool.execute r choice).pool →
      stage'.toil + 10 < stage.toil → u.pool.toil + stage'.toil < s.pool.toil + stage.toil := by
    intro r hpool hlt
    have hle := s.pool.execute_toil r choice
    rw [hpool]
    omega
  cases h with
  | created => exact hkept rfl (by simp [Batch.toil, Submission.toil])
  | turnedAway => exact hkept rfl (by simp [Batch.toil, Submission.toil])
  | entered _ => exact hexecute rfl (by simp [Batch.toil, Submission.toil]; omega)
  | closed _ => exact hexecute rfl (by simp [Batch.toil, Submission.toil]; omega)
  | refused _ =>
    refine hexecute rfl ?_
    rw [Batch.toil_afterFailed, Batch.toil, Submission.toil]
    omega
  | unwound _ => exact hexecute rfl (by simp [Batch.toil, Submission.toil]; omega)
  | @counted accepted r left =>
    refine hkept rfl ?_
    have hle := Batch.toil_afterAccepted (α := α) (accepted ++ [r]) left
    rw [List.length_append, List.length_singleton] at hle
    rw [Batch.toil, Submission.toil]
    omega
  | explained =>
    refine hkept rfl ?_
    rw [Batch.toil_afterFailed, Batch.toil, Submission.toil]
    omega
  | asked hnext =>
    refine hkept (by unfold cancelRecord; split <;> rfl) ?_
    rcases hnext with ⟨k, rfl⟩ | rfl | rfl
    · simp [Batch.toil, Withdrawal.toil]
    · simp [Batch.toil, Withdrawal.toil]
    · rw [Batch.toil_afterFailed, Batch.toil, Withdrawal.toil]
      omega
  | removed => exact hkept rfl (by simp [Batch.toil, Withdrawal.toil])
  | noted =>
    refine hkept rfl ?_
    rw [Batch.toil_afterFailed, Batch.toil, Withdrawal.toil]
    omega
  | collected _ => exact hkept rfl (Nat.lt_succ_self _)
  | finished => exact hkept rfl (Nat.lt_succ_self _)

/-- A step that serves a batch takes something off. -/
theorem Reachable.serve_toil (hs : Reachable s) (hcall : s.calls[i]? = some (.batch stage))
    (hserves : a.serves i = true) (hstep : s.step a = some s') :
    ∃ stage', s'.calls[i]? = some (.batch stage') ∧
      s'.pool.toil + stage'.toil < s.pool.toil + stage.toil := by
  rcases hs.step_batch hstep hcall with
    ⟨hsame, hother, -⟩ | ⟨choice, u, stage', rfl, hmove, hnext, rfl⟩
  · refine ⟨stage, hsame, Nat.add_lt_add_right ?_ _⟩
    obtain ⟨t, hmove, hcore⟩ := step_move hstep
    rw [show s'.pool = t.pool from congrArg (fun w => w.pool) hcore]
    cases hmove with
    | worked hworker =>
      refine hworker.toil_lt ?_
      rintro j rfl
      cases hserves
    | @called j choice _ _ _ _ _ =>
      obtain rfl : j = i := eq_of_beq hserves
      exact absurd rfl (hother choice)
    | declined hdeclined => rcases hdeclined with rfl | ⟨operation, rfl⟩ <;> cases hserves
    | _ => cases hserves
  · exact ⟨stage', hnext, hmove.toil_lt⟩

/-- No run of steps that serve a batch goes on for ever. -/
theorem Reachable.serving_run_le (hs : Reachable s) (hcall : s.calls[i]? = some (.batch stage))
    {actions : List (Action α)} (hserves : ∀ a ∈ actions, a.serves i = true)
    (hrun : s.exec actions = some t) : actions.length ≤ s.pool.toil + stage.toil := by
  induction actions generalizing s stage with
  | nil => exact Nat.zero_le _
  | cons a rest ih =>
    obtain ⟨s', hstep, hrest⟩ := exec_cons hrun
    obtain ⟨stage', hcall', hlt⟩ := hs.serve_toil hcall (hserves a List.mem_cons_self) hstep
    have hle := ih (hs.step a hstep) hcall'
      (fun b hb => hserves b (List.mem_cons_of_mem _ hb)) hrest
    rw [List.length_cons]
    omega

/-! ## When nothing is left to do -/

/-- No step is left that serves the `i`-th call. -/
def Rests (s : System α) (i : Nat) : Prop :=
  ∀ a : Action α, a.serves i = true → s.step a = none

/-- Without a pump no worker has a record to put back. -/
theorem Reachable.none_returned (h : Reachable s) (hname : s.pumpNameFault? ≠ none) (r : Ref) :
    s.pool.tally (·.returns r) = 0 := by
  refine h.of_moves (P := fun s => s.pumpNameFault? ≠ none → s.pool.tally (·.returns r) = 0)
    (fun _ => rfl) (fun _ _ _ _ _ _ => rfl) ?_ hname
  intro s t a hs hnone hmove hname
  rw [pumpNameFault?, hmove.name] at hname
  have hbefore := hnone hname
  have hcalm : CallsPool s t → t.pool.tally (·.returns r) = 0 := fun hcalls =>
    (hcalls.calm _ rfl rfl rfl).trans hbefore
  rcases hmove.kinds with ⟨u, _, _, hcall, -, ht⟩ | hpump | hworker | howner | ⟨now, rfl⟩
  · rw [ht]
    exact (hcall.callsPool.calm _ rfl rfl rfl).trans hbefore
  · exact hcalm hpump.callsPool
  · exact hworker.returns (hs.unpooled hname) hbefore
  · exact hcalm howner.callsPool
  · exact hbefore

/-- A service at rest has its workers parked, or they have left. -/
theorem Rests.resting (h : Rests s i) (hs : Reachable s) {j : Nat} {phase : WorkerPhase}
    (hphase : s.pool.phase? j = some phase) : phase = .parked ∨ phase = .exited := by
  have hstep : s.workerStep j = none := h (.worker j) rfl
  rw [workerStep, hphase] at hstep
  have hnever : Pool.comesBack phase = true → s.workerLook j ≠ none := fun hback hnone =>
    Pool.look_ne_none hphase hback (Option.map_eq_none_iff.mp hnone)
  cases phase with
  | parked => exact .inl rfl
  | exited => exact .inr rfl
  | starting | woken _ | counted => exact absurd hstep (hnever rfl)
  | picked r =>
    simp only at hstep
    split at hstep <;> cases hstep
  | running r =>
    have hend : s.bodyEnds j (.ofExcept (.error default)) = none :=
      h (.bodyEnds j (.error default)) rfl
    rw [bodyEnds, hphase] at hend
    simp only at hend
    split at hend <;> cases hend
  | startingPump r k =>
    have hpos : 0 < s.pool.tally (·.isLaunching) := Pool.tally_pos hphase rfl
    have hpump := hs.launcher_not_blocked (Nat.lt_of_lt_of_le hpos (Nat.le_add_left _ _))
    have hname : s.pumpNameFault? = none := by
      by_contra hname
      have hnone := Pool.tally_eq_zero_iff.mp (hs.none_returned hname r) j _ hphase
      rw [WorkerPhase.returns, beq_self_eq_true] at hnone
      cases hnone
    simp [hpump, hname] at hstep
  | ran r =>
    simp only [Pool.countRun, hphase] at hstep
    cases hstep
  | _ => cases hstep

/-- No record waits in the run queue of a service at rest, if there are workers. -/
theorem Rests.queue (h : Rests s i) (hs : Reachable s) (hlive : 0 < s.pool.live) :
    s.pool.queue = [] := by
  obtain ⟨failed, hpool⟩ := hs.pool
  have hnone : ∀ {f : WorkerPhase → Bool}, f .parked = false → f .exited = false →
      s.pool.tally f = 0 := fun hparked hexited =>
    Pool.tally_eq_zero_iff.mpr fun j phase hphase => by
      rcases h.resting hs hphase with rfl | rfl
      · exact hparked
      · exact hexited
  have hwoken : s.pool.wokenCount = 0 := hnone rfl rfl
  have hstarting : s.pool.startingCount = 0 := hnone rfl rfl
  have hbusy : s.pool.busyCount = 0 := hnone rfl rfl
  have heq := hs.pool_coherent.live_eq
  have hle := hpool.noLostWakeup (by omega)
  exact List.length_eq_zero_iff.mp (by omega)

/-- What nobody but the workers can have, has come to its end in a service at rest. -/
theorem Rests.isFinal (h : Rests s i) (hs : Reachable s) (hr : Sheltered s r)
    (haccepted : r ∈ s.accepted) : s.isFinal r = true := by
  rcases (hs.held r).kept (.inl haccepted) with hpos | hcondemned | hfinal
  · have hhands : s.pool.hands r = 0 := Pool.tally_eq_zero_iff.mpr fun j phase hphase => by
      rcases h.resting hs hphase with rfl | rfl <;> rfl
    have hplaces : s.places r = s.queue.holds r + s.pumpHolds r + (s.pool.queue.count r + 0) := by
      rw [← hhands]
      rfl
    rw [hplaces, hr.unqueued, hr.unpumped] at hpos
    have hmem : r ∈ s.pool.queue := List.count_pos_iff.mp (by omega)
    rw [h.queue hs (hr.manned hmem)] at hmem
    cases hmem
  · have hnone : s.condemned r = 0 := Pool.tally_eq_zero_iff.mpr fun j phase hphase => by
      rcases h.resting hs hphase with rfl | rfl <;> rfl
    omega
  · exact hfinal

/-- A batch at rest is over, or waits for an outcome. -/
theorem Rests.batch (h : Rests s i) (hs : Reachable s) (hcall : s.calls[i]? = some (.batch stage)) :
    stage.isOver = true ∨
      ∃ outcomes r left, stage = .collecting outcomes (r :: left) ∧ s.isFinal r = false := by
  have hstep : s.batchStep 0 stage = none := by
    have hnone : s.callStep i 0 = none := h (.call i 0) (beq_self_eq_true i)
    rw [callStep, hcall, Option.bind_some] at hnone
    exact Option.map_eq_none_iff.mp (Option.map_eq_none_iff.mp hnone)
  have horderly := hs.orderly hcall
  cases stage with
  | submitting accepted current left =>
    have hnone : s.submissionStep 0 current = none := Option.map_eq_none_iff.mp hstep
    cases current with
    | arriving =>
      rw [submissionStep] at hnone
      split at hnone <;> cases hnone
    | executing r =>
      unfold submissionStep at hnone
      simp only at hnone
      split at hnone <;> cases hnone
    | counting r kind => cases hnone
    | explaining lost => cases hnone
    | _ => cases horderly
  | cancelling error current left =>
    have hnone : s.withdrawalStep current = none := Option.map_eq_none_iff.mp hstep
    cases current with
    | asking r mayInterrupt =>
      rw [withdrawalStep] at hnone
      split at hnone <;> cases hnone
    | answered r accepted => cases horderly
    | _ => cases hnone
  | collecting outcomes left =>
    cases left with
    | nil => cases hstep
    | cons r rest =>
      refine .inr ⟨outcomes, r, rest, rfl, ?_⟩
      rw [batchStep] at hstep
      split at hstep
      · cases hstep
      next hnot => exact eq_false_of_ne_true hnot
  | _ => exact .inl rfl

end System

end TaskScheduler
