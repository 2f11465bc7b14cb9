import TaskScheduler.Proofs.StartTimes
import TaskScheduler.Proofs.Termination

/-
  Tasks that repeat come to an end when the delay queue is closed.

  What is still to be run of such a task is in the pump's hand past the check whether the service
  drains, in the run queue, or with a worker that is yet to call its body. `ahead` counts these
  places. Once the delay queue is closed no such task gets into them any more
  (`Reachable.step_ahead`), so the starts of a run are paid from what was there when it was closed
  (`Reachable.exec_ahead`), and the task was in one place then (`Tame.ahead_le`). A run that goes on
  ends in the closed delay queue, which does not take the task back, so that it is given up; and a
  task that repeats is never done (`Move.undone`).
-/
namespace TaskScheduler

namespace WorkerPhase

variable {r : Ref} {f : WorkerPhase → Bool} {phase : WorkerPhase}

/-- The worker has the record, and is yet to move it to `running`. -/
def isPicked (r : Ref) : WorkerPhase → Bool
  | picked r' => r' == r
  | _ => false

/-- The worker has the record, and is yet to call its body. -/
def isComing (r : Ref) : WorkerPhase → Bool
  | picked r' | begun r' => r' == r
  | _ => false

/-- `f` tells phases of a worker that has picked the record up, and is yet to call its body. -/
structure BeforeBody (f : WorkerPhase → Bool) (r : Ref) : Prop where
  picked : ∀ r', f (picked r') = (r' == r)
  coming : ∀ {phase}, f phase = true → phase.isComing r = true

theorem BeforeBody.outside (hf : BeforeBody f r) (hnot : phase.isComing r = false) :
    f phase = false := by
  refine eq_false_of_ne_true fun htrue => ?_
  rw [hf.coming htrue] at hnot
  cases hnot

theorem isPicked_before (r : Ref) : BeforeBody (·.isPicked r) r where
  picked _ := rfl
  coming {phase} h := by cases phase <;> first | exact h | cases h

theorem isComing_before (r : Ref) : BeforeBody (·.isComing r) r where
  picked _ := rfl
  coming h := h

/-- A worker that has taken the record is yet to call its body, or inside it. -/
theorem hasTaken_running (r : Ref) (phase : WorkerPhase) :
    (phase.hasTaken r).toNat = (phase.isComing r).toNat + (phase.isRunning r).toNat := by
  cases phase <;> simp [hasTaken, isComing, isRunning]

/-- A worker that has taken the record is yet to move it to `running`, or at its body. -/
theorem hasTaken_body (r : Ref) (phase : WorkerPhase) :
    (phase.hasTaken r).toNat = (phase.isPicked r).toNat + (phase.body? == some r).toNat := by
  cases phase <;> simp [hasTaken, isPicked, body?]

end WorkerPhase

theorem PumpPhase.hasTaken_of_handsOver {r : Ref} {phase : PumpPhase}
    (h : phase.handsOver r = true) : phase.hasTaken r = true := by
  cases phase <;> first | exact beq_iff_eq.mpr (congrArg some (eq_of_beq h)) | cases h

namespace Record

variable {α : Type} {x y : Record α}

/-- From `x` to `y` a record that repeats has not come to be done. -/
def Undone (x y : Record α) : Prop := x.repeats = true → x.state ≠ .done → y.state ≠ .done

theorem Undone.refl (x : Record α) : Undone x x := fun _ hnot => hnot

theorem Settles.undone (h : Settles x y) : Undone x y := by
  intro _ hnot
  rcases h.state with hsame | ⟨-, hto | hto⟩ | ⟨-, hto⟩
  · exact hsame ▸ hnot
  · rw [hto]
    nofun
  · rw [hto]
    nofun
  · rw [hto]
    nofun

theorem Enters.undone (h : Enters x y) : Undone x y := fun _ hnot => h.state ▸ hnot

/-- However a run ends, it does not make a record done that repeats. -/
theorem complete_undone (x : Record α) (last now : Instant) (result : BodyResult α) :
    Undone x (x.complete last now result).1 := by
  intro hrepeats hnot
  unfold complete
  split
  · split
    · rw [if_pos hrepeats]
      nofun
    · nofun
    · nofun
  · exact hnot

end Record

namespace System

variable {α : Type} {s s' t : System α} {a : Action α} {r : Ref} {f : WorkerPhase → Bool}

/-- A worker moves the record from `pending` to `running`, and is then to call its body. -/
def beginsRun (r : Ref) (s : System α) (a : Action α) (_ : System α) : Bool :=
  match a with
  | .worker i => s.pool.phase? i == some (.picked r) && s.isPending r
  | _ => false

/-- A worker leaves the phases of some kind. -/
def leaves (f : WorkerPhase → Bool) (s : System α) (a : Action α) (t : System α) : Bool :=
  match a with
  | .worker i => (s.pool.phase? i).any f && !(t.pool.phase? i).any f
  | _ => false

/-- The places from which the record goes on to a run, where `f` says which workers have still to
begin it. -/
def ahead (f : WorkerPhase → Bool) (s : System α) (r : Ref) : Nat :=
  s.pool.queue.count r + s.pool.tally f + (s.pump.any (·.handsOver r)).toNat

/-! ## Steps -/

/-- Who does not get to the workers leaves them at what they were at. -/
theorem CallsPool.ahead_tally (h : CallsPool s t) (hf : WorkerPhase.BeforeBody f r) :
    t.pool.tally f = s.pool.tally f :=
  h.calm f (hf.outside rfl) (hf.outside rfl) (hf.outside rfl)

/-- What the pump hands over, the run queue gets. -/
theorem PumpMove.ahead_le (h : PumpMove s t) (hf : WorkerPhase.BeforeBody f r)
    (hclosed : s.queue.closed = true) (hrepeats : s.repeats r = true) :
    t.ahead f r ≤ s.ahead f r := by
  have htally := h.callsPool.ahead_tally hf
  have hhands : (t.pump.any (·.handsOver r)).toNat ≤ (s.pump.any (·.handsOver r)).toNat := by
    cases hbefore : s.pump.any (·.handsOver r) with
    | true => exact Bool.toNat_le _
    | false =>
      exact Nat.le_of_eq (by rw [h.not_handsOver hclosed hrepeats hbefore])
  have hqueue : t.pool.queue.count r ≤ s.pool.queue.count r → t.ahead f r ≤ s.ahead f r := by
    intro hle
    rw [ahead, ahead, htally]
    omega
  have hhanded : ∀ {r' : Ref}, s.pump = some (.handing r') → t.pool.queue = s.pool.queue ++ [r'] →
      t.pump.any (·.handsOver r) = false → t.ahead f r ≤ s.ahead f r := by
    intro r' hpump hentered hnone
    have hhanding : (PumpPhase.handing r').handsOver r = (r' == r) := rfl
    rw [ahead, ahead, htally, hnone, hpump, Option.any_some, hhanding, hentered, count_concat_add,
      Bool.toNat_false]
    omega
  cases h with
  | @handedOver r' choice hpump hanswer =>
    have hentered := Pool.execute_queue s.pool r' choice
    rw [hanswer] at hentered
    exact hhanded hpump hentered.2 rfl
  | @refused r' error choice hpump hanswer =>
    have hkept := Pool.execute_queue s.pool r' choice
    rw [hanswer] at hkept
    exact hqueue (Nat.le_of_eq (congrArg (List.count r) hkept))
  | @unwound r' failure choice hpump hanswer =>
    have hentered := Pool.execute_queue s.pool r' choice
    rw [hanswer] at hentered
    exact hhanded hpump hentered.2.1 rfl
  | @withdrew r' failure hpump =>
    refine hqueue ?_
    rw [Pool.withdraw]
    split
    · exact List.erase_sublist.count_le r
    · exact Nat.le_refl _
  | stopped hpump hnext =>
    refine hqueue ?_
    have hres := s.pool.shutdown_result
    generalize s.pool.shutdown = e at hres
    cases hres with
    | left => exact Nat.le_refl _
    | drained => exact Nat.le_refl _
    | grew events _ hg => exact Nat.le_of_eq (congrArg (List.count r) hg.queue)
    | stranded reason _ _ => exact Nat.zero_le _
    | unwound failure _ hm => exact Nat.le_of_eq (congrArg (List.count r) hm.grew.queue)
  | _ => exact hqueue (Nat.le_refl _)

theorem leaves_of_not {i : Nat} {old : WorkerPhase} (hphase : s.pool.phase? i = some old)
    (hold : f old = false) : leaves f s (.worker i) t = false := by
  rw [leaves, hphase, Option.any_some, hold, Bool.false_and]

/-- One worker goes on, and not back to the phases in question. -/
theorem ahead_goesOn {i : Nat} {old new : WorkerPhase} (hphase : s.pool.phase? i = some old)
    (hpool : t.pool = s.pool.setPhase i new) (hnew : f new = true → f old = true)
    (ha : a = .worker i ∨ leaves f s a t = false)
    (hpump : t.pump.any (·.handsOver r) = s.pump.any (·.handsOver r)) :
    t.ahead f r + (leaves f s a t).toNat ≤ s.ahead f r := by
  have hleaves : (leaves f s a t).toNat + (f new).toNat ≤ (f old).toNat := by
    rcases ha with rfl | hnone
    · rw [leaves, hphase, hpool, Pool.phase?_setPhase_self hphase, Option.any_some, Option.any_some]
      revert hnew
      cases f old <;> cases f new <;> decide
    · rw [hnone]
      revert hnew
      cases f old <;> cases f new <;> decide
  have hqueue : t.pool.queue = s.pool.queue := by
    rw [hpool]
    rfl
  have htally := Pool.tally_setPhase hphase new f
  rw [← hpool] at htally
  rw [ahead, ahead, hqueue, hpump]
  omega

/-- A worker that comes to the run queue may move its first record to its hand. -/
theorem ahead_looked {i : Nat} {pool : Pool} (hlook : s.pool.look i = some pool)
    (hf : WorkerPhase.BeforeBody f r) :
    ({ s with pool } : System α).ahead f r = s.ahead f r := by
  obtain ⟨old, new, hback, htally, hnew⟩ := Pool.look_tally hlook
  have hbefore : f old = false := hf.outside (by cases old <;> first | rfl | cases hback)
  have hbalance := htally f
  rw [hbefore, Bool.toNat_false] at hbalance
  show pool.queue.count r + pool.tally f + (s.pump.any (·.handsOver r)).toNat = _
  rw [ahead]
  rcases hnew with ⟨hqueue, hnone⟩ | ⟨r', hqueue, rfl⟩
  · have hafter : f new = false := hf.outside (by rcases hnone with rfl | rfl <;> rfl)
    rw [hafter, Bool.toNat_false] at hbalance
    rw [hqueue]
    omega
  · rw [hf.picked r'] at hbalance
    rw [hqueue, count_cons_add]
    omega

/-- A worker takes the record from the run queue, and then out of the phases before its body. -/
theorem WorkerMove.ahead_le (h : WorkerMove s a t) (hf : WorkerPhase.BeforeBody f r) :
    t.ahead f r + (leaves f s a t).toNat ≤ s.ahead f r := by
  -- A worker that is not at the start of a run stays away from the phases in question.
  have hends : ∀ {i : Nat} {old new : WorkerPhase}, s.pool.phase? i = some old →
      t.pool = s.pool.setPhase i new → new.isComing r = false →
      (a = .worker i ∨ leaves f s a t = false) →
      t.pump.any (·.handsOver r) = s.pump.any (·.handsOver r) →
      t.ahead f r + (leaves f s a t).toNat ≤ s.ahead f r := by
    intro i old new hphase hpool hnew
    refine ahead_goesOn hphase hpool fun htrue => ?_
    rw [hf.outside hnew] at htrue
    cases htrue
  cases h with
  | @looked i pool hlook =>
    obtain ⟨old, hphase, hback, -⟩ := Pool.look_result hlook
    have hold : f old = false := hf.outside (by cases old <;> first | rfl | cases hback)
    rw [leaves_of_not hphase hold, ahead_looked hlook hf]
    exact Nat.le_refl _
  | @expired i pool hexpire =>
    obtain ⟨hqueue, htally⟩ := Pool.expire_tally hexpire
    rw [ahead, ahead, ← htally f (hf.outside rfl) (hf.outside rfl), ← hqueue]
    exact Nat.le_refl _
  | @counted i pool hcount =>
    obtain ⟨hqueue, htally⟩ := Pool.countRun_tally hcount
    obtain ⟨r', hphase, -⟩ := Pool.countRun_eq_some hcount
    rw [leaves_of_not hphase (hf.outside rfl), ahead, ahead,
      ← htally f (fun _ => hf.outside rfl) (hf.outside rfl), ← hqueue]
    exact Nat.le_refl _
  | @requeued i r' queue needsPump hphase _ =>
    exact hends hphase rfl (by cases needsPump <;> rfl) (.inl rfl) rfl
  | began hphase _ _ =>
    refine ahead_goesOn hphase rfl (fun htrue => ?_) (.inl rfl) rfl
    rw [hf.picked]
    exact hf.coming htrue
  | entered hphase _ => exact hends hphase rfl rfl (.inl rfl) rfl
  | spent hphase _ => exact hends hphase rfl rfl (.inl rfl) rfl
  | passedOver hphase _ => exact hends hphase rfl rfl (.inl rfl) rfl
  | finished hphase _ => exact hends hphase rfl rfl (.inr rfl) rfl
  | rescheduled hphase _ _ => exact hends hphase rfl rfl (.inr rfl) rfl
  | refused hphase _ => exact hends hphase rfl rfl (.inl rfl) rfl
  | gaveUp hphase => exact hends hphase rfl rfl (.inl rfl) rfl
  | launched hphase hpump _ =>
    refine hends hphase rfl rfl (.inl rfl) ?_
    rw [hpump]
    rfl
  | unlaunched hphase _ _ => exact hends hphase rfl rfl (.inr rfl) rfl
  | retracted hphase => exact hends hphase rfl rfl (.inl rfl) rfl
  | rejected hphase => exact hends hphase rfl rfl (.inl rfl) rfl

/-- Submissions hand over records that run once. -/
theorem Reachable.call_count_le {i choice : Nat} (hs : Reachable s) (hrepeats : s.repeats r = true)
    (hstep : s.callStep i choice = some s') :
    s'.pool.queue.count r ≤ s.pool.queue.count r := by
  obtain ⟨call, hcall, h⟩ := Option.bind_eq_some_iff.mp hstep
  obtain ⟨⟨u, call'⟩, hstage, rfl⟩ := Option.map_eq_some_iff.mp h
  rcases stageStep_pool hstage with hsame | ⟨r', hr, hpool⟩
  · exact Nat.le_of_eq (congrArg (fun pool => pool.queue.count r) hsame)
  · have hother : r' ≠ r := by
      rintro rfl
      exact hs.not_executing hrepeats hcall hr
    have hqueue := Pool.execute_queue s.pool r' choice
    rw [← hpool] at hqueue
    have hentered : u.pool.queue = s.pool.queue ++ [r'] →
        u.pool.queue.count r ≤ s.pool.queue.count r := by
      intro hentered
      rw [hentered, count_concat_add, beq_false_of_ne hother]
      exact Nat.le_refl _
    cases hanswer : (s.pool.execute r' choice).answer with
    | ok value =>
      rw [hanswer] at hqueue
      exact hentered hqueue.2
    | error error =>
      rw [hanswer] at hqueue
      exact Nat.le_of_eq (congrArg (List.count r) hqueue)
    | unwound failure =>
      rw [hanswer] at hqueue
      exact hentered hqueue.2.1

theorem OwnerMove.queue (h : OwnerMove s t) : t.pool.queue = s.pool.queue := by
  cases h with
  | resized size =>
    obtain ⟨n, hg⟩ := s.pool.setCoreSize_grew size
    exact hg.queue
  | prestarted count =>
    obtain ⟨n, hg⟩ := s.pool.prestart_grew count
    exact hg.queue
  | refactored factory => rfl

theorem CallMove.pump_or_waiting {duty duty' : Duty} (h : CallMove s duty t duty') :
    t.pump = s.pump ∨ t.pump = some .waiting := by
  cases h <;> first | exact .inl rfl | exact .inr rfl

/-- Nobody else gets the record to where it goes on to a run. -/
theorem ahead_le_of_other (hf : WorkerPhase.BeforeBody f r) (hcalls : CallsPool s t)
    (hqueue : t.pool.queue.count r ≤ s.pool.queue.count r)
    (hpump : t.pump = s.pump ∨ t.pump = some .waiting) : t.ahead f r ≤ s.ahead f r := by
  have hhands : (t.pump.any (·.handsOver r)).toNat ≤ (s.pump.any (·.handsOver r)).toNat := by
    rcases hpump with hsame | hstarted
    · exact Nat.le_of_eq (by rw [hsame])
    · rw [hstarted]
      exact Nat.zero_le _
  rw [ahead, ahead, hcalls.ahead_tally hf]
  omega

/-- While the delay queue is closed a task that repeats gets into no place from which it goes on to
a run, and a worker that leaves the phases before its body uses one up. -/
theorem Reachable.step_ahead (hs : Reachable s) (hf : WorkerPhase.BeforeBody f r)
    (hclosed : s.queue.closed = true) (hrepeats : s.repeats r = true)
    (hstep : s.step a = some s') :
    s'.ahead f r + (leaves f s a s').toNat ≤ s.ahead f r := by
  obtain ⟨t, hmove, hcore⟩ := step_move hstep
  have hpool : s'.pool = t.pool := congrArg (fun w => w.pool) hcore
  have hpump : s'.pump = t.pump := congrArg (fun w => w.pump) hcore
  have hahead : s'.ahead f r = t.ahead f r := by rw [ahead, ahead, hpool, hpump]
  have hleaves : leaves f s a s' = leaves f s a t := by cases a <;> simp only [leaves, hpool]
  rw [hahead, hleaves]
  cases hmove with
  | @begun request call u hmove =>
    have hkept : u.pool = s.pool := hmove.pool_kept nofun
    exact ahead_le_of_other (t := u) hf hmove.callsPool
      (Nat.le_of_eq (congrArg (fun pool => pool.queue.count r) hkept)) hmove.pump_or_waiting
  | @called i choice call call' u hcall hmove =>
    have hcount := hs.call_count_le hrepeats hstep
    rw [hpool] at hcount
    exact ahead_le_of_other (t := u) hf hmove.callsPool hcount hmove.pump_or_waiting
  | @callRefused i reason call call' u hcall hmove hrefused =>
    have hkept : u.pool = s.pool := (hmove.refused_frame hrefused).2.1
    exact ahead_le_of_other (t := u) hf hmove.callsPool
      (Nat.le_of_eq (congrArg (fun pool => pool.queue.count r) hkept)) hmove.pump_or_waiting
  | pumped hmove | pumpIdled hmove | pumpFaulted hmove =>
    exact hmove.ahead_le hf hclosed hrepeats
  | worked hmove => exact hmove.ahead_le hf
  | resized size =>
    have howner := OwnerMove.resized (s := s) size
    exact ahead_le_of_other hf howner.callsPool
      (Nat.le_of_eq (congrArg (List.count r) howner.queue)) (.inl rfl)
  | prestarted count =>
    have howner := OwnerMove.prestarted (s := s) count
    exact ahead_le_of_other hf howner.callsPool
      (Nat.le_of_eq (congrArg (List.count r) howner.queue)) (.inl rfl)
  | refactored factory =>
    have howner := OwnerMove.refactored (s := s) factory
    exact ahead_le_of_other hf howner.callsPool
      (Nat.le_of_eq (congrArg (List.count r) howner.queue)) (.inl rfl)
  | timePassed time => exact Nat.le_refl _
  | declined hdeclined =>
    rcases hdeclined with rfl | ⟨operation, rfl⟩ <;> exact Nat.le_refl _

/-! ## Starts -/

/-- A worker that has a record in hand before its body goes on to the body, or is through with the
record. -/
theorem WorkerMove.goes_on {i : Nat} {old : WorkerPhase} (h : WorkerMove s (.worker i) t)
    (hphase : s.pool.phase? i = some old) (hold : old.isComing r = true) :
    ∃ new, t.pool.phase? i = some new ∧ new.isPicked r = false ∧
      (old = .begun r → new.isComing r = false) := by
  have hset : ∀ new : WorkerPhase, new.isPicked r = false →
      (old = .begun r → new.isComing r = false) → t.pool = s.pool.setPhase i new →
      ∃ new, t.pool.phase? i = some new ∧ new.isPicked r = false ∧
        (old = .begun r → new.isComing r = false) := by
    intro new hpicked hcoming hpool
    exact ⟨new, by rw [hpool, Pool.phase?_setPhase_self hphase], hpicked, hcoming⟩
  cases h with
  | looked hlook =>
    obtain ⟨old', hphase', hback, -⟩ := Pool.look_result hlook
    cases hphase.symm.trans hphase'
    cases old <;> first | cases hold | cases hback
  | counted hcount =>
    obtain ⟨r', hphase', -⟩ := Pool.countRun_eq_some hcount
    cases hphase.symm.trans hphase'
    cases hold
  | began hphase' _ _ =>
    cases hphase.symm.trans hphase'
    exact hset _ rfl nofun rfl
  | passedOver hphase' _ => exact hset _ rfl (fun _ => rfl) rfl
  | entered hphase' _ => exact hset _ rfl (fun _ => rfl) rfl
  | spent hphase' _ => exact hset _ rfl (fun _ => rfl) rfl
  | requeued hphase' _ | refused hphase' _ | gaveUp hphase' | launched hphase' _ _
  | retracted hphase' | rejected hphase' =>
    cases hphase.symm.trans hphase'
    cases hold

theorem step_goes_on {i : Nat} {old : WorkerPhase} (hstep : s.step (.worker i) = some s')
    (hphase : s.pool.phase? i = some old) (hold : old.isComing r = true) :
    ∃ new, s'.pool.phase? i = some new ∧ new.isPicked r = false ∧
      (old = .begun r → new.isComing r = false) :=
  step_of_move (P := fun s' => ∃ new, s'.pool.phase? i = some new ∧ new.isPicked r = false ∧
    (old = .begun r → new.isComing r = false)) (fun _ => rfl) (fun hmove => by
      cases hmove with
      | worked hworker => exact hworker.goes_on hphase hold
      | declined hdeclined => rcases hdeclined with heq | ⟨operation, heq⟩ <;> cases heq) hstep

theorem leaves_of_beginsRun (hstep : s.step a = some s') (h : beginsRun r s a s' = true) :
    leaves (·.isPicked r) s a s' = true := by
  cases a with
  | worker i =>
    rw [beginsRun, Bool.and_eq_true] at h
    have hphase : s.pool.phase? i = some (.picked r) := eq_of_beq h.1
    obtain ⟨new, hnew, hpicked, -⟩ := step_goes_on hstep hphase (beq_self_eq_true r)
    rw [leaves, hphase, hnew, Option.any_some, Option.any_some, hpicked, Bool.not_false,
      Bool.and_true]
    exact beq_self_eq_true r
  | _ => cases h

theorem leaves_of_startsBody (hstep : s.step a = some s') (h : startsBody r s a s' = true) :
    leaves (·.isComing r) s a s' = true := by
  cases a with
  | worker i =>
    rw [startsBody, Bool.and_eq_true] at h
    have hphase : s.pool.phase? i = some (.begun r) := eq_of_beq h.1
    obtain ⟨new, hnew, -, hcoming⟩ := step_goes_on hstep hphase (beq_self_eq_true r)
    rw [leaves, hphase, hnew, Option.any_some, Option.any_some, hcoming rfl, Bool.not_false,
      Bool.and_true]
    exact beq_self_eq_true r
  | _ => cases h

/-! ## Where the task is -/

theorem tally_le_taken (hf : WorkerPhase.BeforeBody f r) :
    s.pool.tally f ≤ s.pool.tally (·.hasTaken r) := by
  refine List.countP_mono_left fun w _ hbefore => ?_
  have hcoming := hf.coming hbefore
  cases hphase : w.phase <;> rw [hphase] at hcoming <;> first | exact hcoming | cases hcoming

/-- What the pump hands over, it has in hand. -/
theorem handsOver_le_pumpHolds (s : System α) (r : Ref) :
    (s.pump.any (·.handsOver r)).toNat ≤ s.pumpHolds r := by
  cases hhands : s.pump.any (·.handsOver r) with
  | false => exact Nat.zero_le _
  | true =>
    obtain ⟨phase, hpump, hhands⟩ := (Option.any_eq_true _ _).mp hhands
    have htaken := PumpPhase.hasTaken_of_handsOver hhands
    have hholds := pumpHolds_of_record hpump (PumpPhase.record_of_hasTaken htaken) r
    exact Nat.le_of_eq (by rw [hholds, beq_self_eq_true])

/-- The places in question are outside the delay queue. -/
theorem ahead_le_places (hf : WorkerPhase.BeforeBody f r) :
    s.queue.holds r + s.ahead f r ≤ s.places r := by
  have htally := tally_le_taken (s := s) hf
  have htaken := s.taken_le_hands r
  have hpump := s.handsOver_le_pumpHolds r
  have hplaces : s.places r =
    s.queue.holds r + s.pumpHolds r + (s.pool.queue.count r + s.pool.hands r) := rfl
  rw [ahead]
  omega

theorem Tame.ahead_le (h : Tame s r) (hf : WorkerPhase.BeforeBody f r) : s.ahead f r ≤ 1 := by
  rcases h with hsole | hdangling
  · have hone : s.places r + s.arriving r ≤ 1 := hsole
    have hle := ahead_le_places (s := s) hf
    omega
  · obtain ⟨failure, hpump⟩ := hdangling.faulted
    obtain ⟨-, hcount, hhands, -⟩ := hdangling.alone
    have htally := tally_le_taken (s := s) hf
    have htaken := s.taken_le_hands r
    have hnot : s.pump.any (·.handsOver r) = false := by
      rw [hpump]
      rfl
    rw [ahead, hnot, Bool.toNat_false]
    omega

/-- A task that waits in the delay queue is nowhere else. -/
theorem Tame.ahead_of_queued (h : Tame s r) (hf : WorkerPhase.BeforeBody f r)
    (hqueued : 0 < s.queue.holds r) : s.ahead f r = 0 := by
  have hle := ahead_le_places (s := s) hf
  rcases h with hsole | hdangling
  · have hone : s.places r + s.arriving r ≤ 1 := hsole
    omega
  · have halone := hdangling.alone
    omega

/-- Nor is one that a worker has got further with. -/
theorem Tame.ahead_of_taken {g : WorkerPhase → Bool} (h : Tame s r)
    (hsplit : ∀ phase : WorkerPhase, (phase.hasTaken r).toNat = (f phase).toNat + (g phase).toNat)
    (hpast : 0 < s.pool.tally g) : s.ahead f r = 0 := by
  have htaken := s.taken_le_hands r
  have hsum : s.pool.tally (·.hasTaken r) = s.pool.tally f + s.pool.tally g :=
    Pool.tally_eq_add hsplit s.pool
  have hpump := s.handsOver_le_pumpHolds r
  have hone : s.queue.holds r + s.pumpHolds r + (s.pool.queue.count r + s.pool.hands r) +
    s.arriving r ≤ 1 := h.sole_of_hands (by omega)
  rw [ahead]
  omega

/-- A record that has not been released is not on its way to a run. -/
theorem ahead_of_unreleased (hf : WorkerPhase.BeforeBody f r) (h : ¬s.Released r) :
    s.ahead f r = 0 := by
  have hqueue : s.pool.queue.count r = 0 :=
    List.count_eq_zero.mpr fun hqueued => h (.inl (.inl hqueued))
  have htally : s.pool.tally f = 0 := by
    have hle := tally_le_taken (s := s) hf
    refine Nat.eq_zero_of_not_pos fun hpos => h (.inl (.inr (Nat.lt_of_lt_of_le hpos hle)))
  have hpump : s.pump.any (·.handsOver r) = false := by
    refine eq_false_of_ne_true fun hhands => h (.inr ?_)
    obtain ⟨phase, hphase, hhands⟩ := (Option.any_eq_true _ _).mp hhands
    rw [hphase]
    exact PumpPhase.hasTaken_of_handsOver hhands
  rw [ahead, hqueue, htally, hpump]
  rfl

theorem tally_of_leaves (h : leaves f s a t = true) : 0 < s.pool.tally f := by
  cases a with
  | worker i =>
    rw [leaves, Bool.and_eq_true] at h
    obtain ⟨phase, hphase, hbefore⟩ := (Option.any_eq_true _ _).mp h.1
    exact Pool.tally_pos hphase hbefore
  | _ => cases h

/-! ## Runs -/

/-- Before a task is made it is nowhere, and it is not on its way to a run when it has been made. -/
theorem Reachable.step_unmade (hs : Reachable s) (hf : WorkerPhase.BeforeBody f r)
    (hnew : s.record? r = none) (hstep : s.step a = some s') :
    s'.ahead f r + (leaves f s a s').toNat = 0 := by
  have hnowhere := hs.unmade hnew
  have hle := ahead_le_places (s := s) hf
  have hnot : leaves f s a s' = false := by
    refine eq_false_of_ne_true fun hleaves => ?_
    have hpos := tally_of_leaves hleaves
    have htally : s.pool.tally f ≤ s.ahead f r := by
      rw [ahead]
      omega
    omega
  rw [ahead_of_unreleased hf (hs.made_unreleased hnew hstep), hnot]
  rfl

/-- From when the delay queue is closed the starts of a task that repeats are paid from the places
it was in. -/
theorem Reachable.exec_ahead {event : System α → Action α → System α → Bool}
    {actions : List (Action α)} (hs : Reachable s) (hf : WorkerPhase.BeforeBody f r)
    (hevent : ∀ {u u' : System α} {b : Action α}, u.step b = some u' → event u b u' = true →
      leaves f u b u' = true)
    (hclosed : s.queue.closed = true) (hrepeats : t.repeats r = true)
    (hrun : s.exec actions = some t) :
    t.ahead f r + s.occurrences event actions ≤ s.ahead f r := by
  induction actions generalizing s with
  | nil =>
    cases hrun
    exact Nat.le_refl _
  | cons a rest ih =>
    obtain ⟨s', hstep, hrest⟩ := exec_cons hrun
    have hlater := ih (hs.step a hstep) (step_closed hstep hclosed) hrest
    have hfirst : s'.ahead f r + (leaves f s a s').toNat ≤ s.ahead f r := by
      cases hx : s.record? r with
      | none =>
        rw [hs.step_unmade hf hx hstep]
        exact Nat.zero_le _
      | some x =>
        refine hs.step_ahead hf hclosed ?_ hstep
        rw [← exec_repeats hrun hx]
        exact hrepeats
    have hpaid : (event s a s').toNat ≤ (leaves f s a s').toNat := by
      cases hhappens : event s a s' with
      | false => exact Nat.zero_le _
      | true =>
        exact Nat.le_of_eq (by rw [hevent hstep hhappens])
    rw [occurrences_cons hstep]
    omega

/-- What uses up a place from which a task that repeats goes on to a run happens once more at most
after the delay queue is closed, and not at all if the task was in the delay queue, or if a worker
had got further with it. -/
theorem Tame.once_more {event : System α → Action α → System α → Bool} {g : WorkerPhase → Bool}
    {actions : List (Action α)} (h : Tame s r) (hs : Reachable s)
    (hf : WorkerPhase.BeforeBody f r)
    (hsplit : ∀ phase : WorkerPhase, (phase.hasTaken r).toNat = (f phase).toNat + (g phase).toNat)
    (hevent : ∀ {u u' : System α} {b : Action α}, u.step b = some u' → event u b u' = true →
      leaves f u b u' = true)
    (hclosed : s.queue.closed = true) (hrepeats : t.repeats r = true)
    (hrun : s.exec actions = some t) :
    s.occurrences event actions ≤ 1 ∧
      (0 < s.queue.holds r ∨ 0 < s.pool.tally g → s.occurrences event actions = 0) := by
  have hpaid := hs.exec_ahead hf hevent hclosed hrepeats hrun
  have hone := h.ahead_le hf
  refine ⟨by omega, ?_⟩
  rintro (hqueued | hpast)
  · have hnone := h.ahead_of_queued hf hqueued
    omega
  · have hnone := h.ahead_of_taken hsplit hpast
    omega

/-- The task is in one place at a time over a run in which no panic goes through a hand-off, or in
which no worker picks the task up before the pump has taken it back. -/
theorem exec_tame {name : String} {config : ServiceConfig} {clockEnd now : Instant}
    {actions : List (Action α)}
    (hrun : (System.initial host name config clockEnd now).exec actions = some t)
    (h : (∀ a ∈ actions, a.Contained) ∨
      (System.initial host name config clockEnd now).occurrences (takesUpFaulted r) actions = 0) :
    Tame t r := by
  have hstart : Steady (System.initial host name config clockEnd now : System α) := .initial ..
  rcases h with hactions | hnot
  · exact .inl (exec_sole hstart.reachable hstart.contained (hstart.sole r) hactions hrun)
  · have hkept : Reachable t ∧ Tame t r := by
      refine exec_keeps_unless (P := fun s => Reachable s ∧ Tame s r) ?_
        ⟨hstart.reachable, .inl (hstart.sole r)⟩ hrun hnot
      rintro s s' a ⟨hs, htame⟩ hstep hfault
      exact ⟨hs.step a hstep, htame.step hs hstep hfault⟩
    exact hkept.2

/-! ## What becomes of the task -/

theorem WorkerMove.undone (h : WorkerMove s a t) : Evolves Record.Undone s t := by
  cases h with
  | began _ _ _ => exact .of_modify rfl rfl .refl fun x _ _ _ => nofun
  | entered _ _ => exact .of_modify rfl rfl .refl fun x _ => x.enterBody_enters.undone
  | spent _ _ =>
    refine .of_modify rfl rfl .refl fun x _ hrepeats hnot => ?_
    have henters := x.enterBody_enters
    refine Record.complete_undone _ _ _ _ ?_ (henters.undone hrepeats hnot)
    rw [Record.repeats, henters.recurrence]
    exact hrepeats
  | finished _ _ => exact .of_modify rfl rfl .refl fun x _ => x.complete_undone _ _ _
  | rescheduled _ _ _ => exact .of_modify rfl rfl .refl fun x _ => x.complete_undone _ _ _
  | gaveUp _ => exact .of_modify rfl rfl .refl fun x _ => x.giveUp_settles.undone
  | rejected _ => exact .of_modify rfl rfl .refl fun x _ => (x.reject_settles _).undone
  | _ => exact .of_records rfl rfl .refl

/-- Only a record that runs once comes to be done. -/
theorem Move.undone (h : Move s a t) : Evolves Record.Undone s t :=
  h.evolves Record.Settles.undone WorkerMove.undone

theorem Reachable.not_done (h : Reachable s) {x : Record α} :
    s.record? r = some x → x.repeats = true → x.state ≠ .done := by
  revert x
  refine h.of_moves (P := fun s => ∀ {x : Record α}, s.record? r = some x → x.repeats = true →
    x.state ≠ .done) (fun _ => rfl) ?_ ?_
  · intro host name config clockEnd now x hx
    cases hx
  · intro s t a _ hs hmove y hy hrepeats
    cases hx : s.record? r with
    | none =>
      rw [(hmove.keeps.made hy hx).state]
      nofun
    | some x =>
      obtain ⟨z, hz, hkeeps⟩ := hmove.keeps.kept hx
      obtain ⟨z', hz', hundone⟩ := hmove.undone.kept hx
      cases hy.symm.trans hz
      cases hy.symm.trans hz'
      rw [hkeeps.repeats] at hrepeats
      exact hundone hrepeats (hs hx hrepeats)

/-- A task that repeats and has been admitted is given up or has failed when the service has come to
its end. -/
theorem Reachable.given_up (h : Reachable s) (hlife : s.lifecycle = .terminated)
    (hadmitted : s.Admitted r) (hrepeats : s.repeats r = true) :
    s.state? r = some .cancelled ∨ s.state? r = some .failed := by
  obtain ⟨x, hx, hrepeats⟩ := (Option.any_eq_true _ _).mp hrepeats
  have hnot := h.not_done hx hrepeats
  obtain ⟨y, hy, hfinal⟩ := isFinal_iff.mp (h.admitted_final hlife hadmitted)
  cases hx.symm.trans hy
  rw [state?, hx, Option.map_some]
  rw [Record.isFinal] at hfinal
  cases hstate : x.state with
  | cancelled => exact .inl rfl
  | failed => exact .inr rfl
  | done => exact absurd hstate hnot
  | _ =>
    rw [hstate] at hfinal
    cases hfinal

/-- A task that repeats comes to an end.

It is never done, and is cancelled or has failed when the service is terminated, if its submission
got it in. From a moment at which the delay queue is closed its body is started once more at most,
and it comes to run once more at most: not at all if it was in the delay queue at that moment. Nor
is its body started again if a worker was inside it then, and it does not come to run again if it
was running.

The bounds do not hold of a task that is held twice at that moment, since a panic had gone through a
hand-off of it and a worker had picked it up before the pump took it back. A factory that keeps its
panics to itself leads to no such thing. -/
theorem periodic_tasks_stop (host : Host) (name : String) (config : ServiceConfig)
    (clockEnd now : Instant) {actions : List (Action α)}
    (hrun : (System.initial host name config clockEnd now).exec actions = some t)
    (hrepeats : t.repeats r = true) :
    t.state? r ≠ some .done ∧
      (t.lifecycle = .terminated → t.Admitted r →
        t.state? r = some .cancelled ∨ t.state? r = some .failed) ∧
      ∀ before after s, actions = before ++ after →
        (System.initial host name config clockEnd now).exec before = some s →
        s.queue.closed = true →
        ((∀ a ∈ before, a.Contained) ∨ (System.initial host name config clockEnd now).occurrences
          (takesUpFaulted r) before = 0) →
        s.occurrences (startsBody r) after ≤ 1 ∧ s.occurrences (beginsRun r) after ≤ 1 ∧
          (0 < s.queue.holds r ∨ 0 < s.running r → s.occurrences (startsBody r) after = 0) ∧
          (0 < s.queue.holds r ∨ 0 < s.bodies r → s.occurrences (beginsRun r) after = 0) := by
  have hstart : Reachable (System.initial host name config clockEnd now : System α) := .initial ..
  have ht := hstart.exec hrun
  refine ⟨fun hdone => ?_, fun hlife hadmitted => ht.given_up hlife hadmitted hrepeats, ?_⟩
  · obtain ⟨x, hx, hstate⟩ := state?_eq_some.mp hdone
    rw [repeats_of_record hx] at hrepeats
    exact ht.not_done hx hrepeats hstate
  · rintro before after s rfl hbefore hclosed hcalm
    have hs := hstart.exec hbefore
    have htame := exec_tame hbefore hcalm
    have hafter := (exec_append hbefore).mp hrun
    obtain ⟨hstarts, hnot⟩ := htame.once_more hs (WorkerPhase.isComing_before r)
      (WorkerPhase.hasTaken_running r) leaves_of_startsBody hclosed hrepeats hafter
    obtain ⟨hbegins, hnot'⟩ := htame.once_more hs (WorkerPhase.isPicked_before r)
      (WorkerPhase.hasTaken_body r) leaves_of_beginsRun hclosed hrepeats hafter
    exact ⟨hstarts, hbegins, hnot, hnot'⟩

/-- The task of `scheduledAtRate` is handed to the pool, and then the service is disposed of. -/
def queuedWhenClosed : List (Action Unit) :=
  scheduledAtRate ++ [.pump 0, .pump 0, .pump 0, .pump 0, .begin .dispose, .call 1 0, .call 1 0]

/-- A worker picks the task up and calls its body. -/
def startedOnceMore : List (Action Unit) := [.worker 0, .worker 0, .worker 0]

/-- The body returns, the delay queue does not take the task back, and the service comes to its
end. -/
def givenUpAtEnd : List (Action Unit) :=
  [.bodyEnds 0 (.ok ()), .worker 0, .worker 0, .worker 0,
    .pump 0, .pump 0, .worker 0, .pump 0, .pump 0]

/-- A task that is in the run queue when the delay queue is closed is run. It is not started again
after that, and is given up. -/
theorem queued_task_runs_once_more :
    ∃ s u t : System Unit,
      (System.initial .lenient "service" (.ofProcessors 1) 1000000000000 0).exec
        queuedWhenClosed = some s ∧
      s.queue.closed = true ∧ s.pool.queue = [0] ∧
      s.exec startedOnceMore = some u ∧ u.exec givenUpAtEnd = some t ∧
      s.occurrences (startsBody 0) (startedOnceMore ++ givenUpAtEnd) = 1 ∧
      u.occurrences (startsBody 0) givenUpAtEnd = 0 ∧
      t.lifecycle = .terminated ∧ t.state? 0 = some .cancelled := by
  have hruns : ((System.initial .lenient "service" (.ofProcessors 1) 1000000000000 0).exec
      queuedWhenClosed).any (fun s => (s.exec startedOnceMore).any fun u =>
        (u.exec givenUpAtEnd).any fun t => decide (
          s.queue.closed = true ∧ s.pool.queue = [0] ∧
          0 < s.occurrences (startsBody 0) (startedOnceMore ++ givenUpAtEnd) ∧
          u.queue.closed = true ∧ 0 < u.running 0 ∧
          t.repeats 0 = true ∧ t.lifecycle = .terminated ∧ 0 ∈ t.accepted ∧
          t.state? 0 ≠ some .failed)) = true := by
    decide +kernel
  simp only [Option.any_eq_true, decide_eq_true_eq] at hruns
  obtain ⟨s, hs, u, hu, t, ht, hclosed, hqueue, hstarted, hclosed', hrunning, hrepeats, hlife,
    haccepted, hnot⟩ := hruns
  have hcontained : ∀ a ∈ queuedWhenClosed ++ startedOnceMore, a.Contained := by
    simp [queuedWhenClosed, startedOnceMore, scheduledAtRate, Action.Contained,
      WorkerFactory.Contained]
  have hinside := (exec_append hs).mpr hu
  obtain ⟨-, hend, hbounds⟩ := periodic_tasks_stop .lenient "service" (.ofProcessors 1)
    1000000000000 0 ((exec_append hinside).mpr ht) hrepeats
  obtain ⟨hone, -⟩ := hbounds queuedWhenClosed (startedOnceMore ++ givenUpAtEnd) s rfl hs hclosed
    (.inl fun a ha => hcontained a (List.mem_append_left _ ha))
  obtain ⟨-, -, hnever, -⟩ := hbounds _ givenUpAtEnd u rfl hinside hclosed' (.inl hcontained)
  refine ⟨s, u, t, hs, hclosed, hqueue, hu, ht, by omega, hnever (.inr hrunning), hlife, ?_⟩
  exact (hend hlife (.inl haccepted)).resolve_right hnot

/-- A task is scheduled. A panic of the factory goes through its hand-off, a worker picks it up from
the run queue, and the pump puts it back into the delay queue. Then the service is disposed of. -/
def heldTwiceWhenClosed : List (Action Unit) :=
  [.setFactory { start := fun _ _ => .started "worker" }, .setCoreSize 2, .prestart 1,
    .setFactory (.unwinding (.literal "no threads")),
    .begin (.scheduleSeries .zero (.fixedRate (.ofNanos 5))),
    .call 0 0, .call 0 0, .call 0 0, .call 0 0, .pump 0, .pump 0, .pump 0, .pump 0,
    .worker 0, .pump 0, .pump 0, .pump 0, .pump 0, .pump 0,
    .begin .dispose, .call 1 0, .call 1 0]

/-- The task is in the delay queue when that is closed, and the worker that has picked it up starts
its body after that. -/
theorem task_held_twice_starts_after_closing :
    ∃ s t : System Unit,
      (System.initial .lenient "service" (.ofProcessors 2) 1000000000000 0).exec
        heldTwiceWhenClosed = some s ∧
      s.queue.closed = true ∧ s.queue.refs = [0] ∧
      s.exec [.worker 0, .worker 0] = some t ∧ t.repeats 0 = true ∧
      s.occurrences (startsBody 0) [.worker 0, .worker 0] = 1 := by
  have hruns : ((System.initial .lenient "service" (.ofProcessors 2) 1000000000000 0).exec
      heldTwiceWhenClosed).any (fun s : System Unit =>
        (s.exec [.worker 0, .worker 0]).any fun t => decide (
          s.queue.closed = true ∧ s.queue.refs = [0] ∧ t.repeats 0 = true ∧
          s.occurrences (startsBody 0) [.worker 0, .worker 0] = 1)) = true := by
    decide +kernel
  simp only [Option.any_eq_true, decide_eq_true_eq] at hruns
  obtain ⟨s, hbefore, t, hafter, hclosed, hqueued, hrepeats, hstarts⟩ := hruns
  exact ⟨s, t, hbefore, hclosed, hqueued, hafter, hrepeats, hstarts⟩

end System

end TaskScheduler
