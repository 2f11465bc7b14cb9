import TaskScheduler.Proofs.Pool.Growth

/-
  Runs of the worker pool on its own: the calls on it and the sections of its workers, in any order.

  `act` carries out one of them, and `Reachable p n` says that some sequence of them leads from an
  empty pool to `p`, with `n` failed starts of workers on the way. `act_calm`: a call on the pool
  leaves alone what its workers are doing. `look_tally`, `expire_tally`, `countRun_tally`: what a
  section of a worker changes. `act_setup`: the core size, the factory and the closing of a pool are
  changed by the operations that are there for it, and by no other.
-/
namespace TaskScheduler.Pool

variable {p p' p'' : Pool} {n : Nat}

/-! ## Workers at the run queue -/

/-- A worker of this phase comes to the run queue next. -/
def comesBack : WorkerPhase → Bool
  | .starting | .counted | .woken _ => true
  | _ => false

/-- The pool when a worker of a phase has come back to the run queue, and before it looks. -/
def back (p : Pool) : WorkerPhase → Pool
  | .counted => { p with active := p.active - 1 }
  | .woken _ => { p with idle := p.idle - 1 }
  | _ => p

section

variable (p : Pool) (phase : WorkerPhase)

@[simp] theorem back_queue : (p.back phase).queue = p.queue := by cases phase <;> rfl

@[simp] theorem back_coreSize : (p.back phase).coreSize = p.coreSize := by cases phase <;> rfl

@[simp] theorem back_live : (p.back phase).live = p.live := by cases phase <;> rfl

@[simp] theorem back_largest : (p.back phase).largest = p.largest := by cases phase <;> rfl

@[simp] theorem back_nextIndex : (p.back phase).nextIndex = p.nextIndex := by cases phase <;> rfl

@[simp] theorem back_closing : (p.back phase).closing = p.closing := by cases phase <;> rfl

@[simp] theorem back_completed : (p.back phase).completed = p.completed := by cases phase <;> rfl

@[simp] theorem back_factory : (p.back phase).factory = p.factory := by cases phase <;> rfl

@[simp] theorem back_workers : (p.back phase).workers = p.workers := by cases phase <;> rfl

@[simp] theorem back_threadsGauge : (p.back phase).threadsGauge = p.threadsGauge := by
  cases phase <;> rfl

@[simp] theorem back_drainSignals : (p.back phase).drainSignals = p.drainSignals := by
  cases phase <;> rfl

end

theorem isLive_of_comesBack {phase : WorkerPhase} (h : comesBack phase = true) :
    phase.isLive = true := by
  cases phase <;> first | rfl | cases h

/-- What a worker does at the run queue. -/
inductive LookResult (p : Pool) (i : Nat) (phase : WorkerPhase) : Pool → Prop where
  | picked {r : Ref} {rest : List Ref} : p.queue = r :: rest →
      LookResult p i phase
        ({ p.back phase with queue := rest, active := (p.back phase).active + 1 }.setPhase i
          (.picked r))
  | parked : p.queue = [] → p.closing = false →
      (phase = .woken true → p.live ≤ p.coreSize) → LookResult p i phase
        ({ p.back phase with idle := (p.back phase).idle + 1 }.setPhase i .parked)
  | left : p.queue = [] → p.closing = true ∨ phase = .woken true ∧ p.coreSize < p.live →
      LookResult p i phase ((p.back phase).leave i)

theorem seek_result {q : Pool} {i : Nat} {phase : WorkerPhase} (hq : p.back phase = q)
    (hstays : p.queue = [] → phase = .woken true → p.live ≤ p.coreSize) :
    LookResult p i phase (q.seek i) := by
  subst hq
  unfold seek
  split
  next r rest hr => exact .picked ((back_queue p phase).symm.trans hr)
  next hnil =>
    rw [back_queue] at hnil
    split
    next hc => exact .left hnil (.inl ((back_closing p phase).symm.trans hc))
    next hc => exact .parked hnil (by simpa using hc) (hstays hnil)

theorem look_result {i : Nat} (h : p.look i = some p') :
    ∃ phase, p.phase? i = some phase ∧ comesBack phase = true ∧ LookResult p i phase p' := by
  unfold look at h
  split at h
  next hi =>
    cases h
    exact ⟨_, hi, rfl, seek_result rfl nofun⟩
  next hi =>
    cases h
    exact ⟨_, hi, rfl, seek_result rfl nofun⟩
  next timedOut hi =>
    refine ⟨_, hi, rfl, ?_⟩
    split at h
    next hleave =>
      cases h
      simp only [Bool.and_eq_true, List.isEmpty_iff, decide_eq_true_eq] at hleave
      exact .left hleave.1.2 (.inr ⟨congrArg WorkerPhase.woken hleave.1.1, hleave.2⟩)
    next hstays =>
      cases h
      refine seek_result rfl fun hnil htimedOut => ?_
      cases htimedOut
      simpa [hnil] using hstays
  next => cases h

/-! ## Runs -/

/-- A worker with a record in hand goes on with it. -/
def proceed (p : Pool) (i : Nat) (phase : WorkerPhase) : Option Pool :=
  match p.phase? i with
  | some old =>
    if old.record?.isSome && phase.record? == old.record? then some (p.setPhase i phase) else none
  | none => none

/-- What can happen to a pool. -/
inductive Op where
  | execute (record : Ref) (choice : Nat)
  | prestart (count : Nat)
  | setCoreSize (size : Nat)
  | withdraw (record : Ref)
  | setFactory (factory : WorkerFactory)
  | shutdown
  /-- A worker comes back to the run queue. -/
  | look (worker : Nat)
  /-- The keep-alive time of a parked worker is over. -/
  | expire (worker : Nat)
  | proceed (worker : Nat) (phase : WorkerPhase)
  /-- A worker that is through with a record counts it. -/
  | countRun (worker : Nat)

/-- The pool after an operation, or `none` if it cannot happen now. -/
def act (p : Pool) : Op → Option Pool
  | .execute r choice => some (p.execute r choice).pool
  | .prestart count => some (p.prestart count).pool
  | .setCoreSize size => some (p.setCoreSize size).pool
  | .withdraw r => some (p.withdraw r).1
  | .setFactory factory => some (p.setFactory factory)
  | .shutdown => some p.shutdown.pool
  | .look i => p.look i
  | .expire i => p.expire i
  | .proceed i phase => p.proceed i phase
  | .countRun i => p.countRun i

/-- The operations that are not sections of workers. -/
def Op.isCall : Op → Bool
  | execute .. | prestart _ | setCoreSize _ | withdraw _ | setFactory _ | shutdown => true
  | _ => false

/-- The failed starts of an operation: how often the factory was asked without a new worker. A new
factory has not been asked at all. -/
def failedStarts (p : Pool) : Op → Pool → Nat
  | .setFactory _, _ => 0
  | _, p' => p'.factory.attempts - p.factory.attempts - (p'.nextIndex - p.nextIndex)

/-- The pools that operations in any order can lead to, with the number of failed starts. -/
inductive Reachable : Pool → Nat → Prop where
  | initial (host : Host) (config : PoolConfig) : Reachable (.ofConfig host config) 0
  | act {p p' : Pool} {failed : Nat} (op : Op) : Reachable p failed → p.act op = some p' →
      Reachable p' (failed + p.failedStarts op p')

/-- From `p` to `p'` workers have been started or woken, and nothing else has happened to them. -/
def Calm (p p' : Pool) : Prop :=
  ∀ f : WorkerPhase → Bool, f .starting = false → f .parked = false → f (.woken false) = false →
    p'.tally f = p.tally f

theorem Calm.trans (h : Calm p p') (h' : Calm p' p'') : Calm p p'' :=
  fun f hs hp hw => (h' f hs hp hw).trans (h f hs hp hw)

theorem Calm.of_workers (h : p'.workers = p.workers) : Calm p p' :=
  fun f _ _ _ => tally_congr h f

theorem Grew.calm (h : Grew p n p') : Calm p p' := fun _ hs _ _ => h.tally hs

theorem notifyOne_calm (p : Pool) (choice : Nat) : Calm p (p.notifyOne choice) := by
  intro f _ hparked hwoken
  rcases notifyOne_cases p choice with ⟨-, he⟩ | ⟨i, hi, he⟩
  · rw [he]
  · have htally := tally_setPhase hi (.woken false) f
    rw [hparked, hwoken] at htally
    rw [he]
    exact htally

theorem notifyAll_calm (p : Pool) : Calm p p.notifyAll :=
  fun _ _ hparked hwoken => tally_notifyAll (hparked.trans hwoken.symm) p

theorem execute_calm (p : Pool) (r : Ref) (choice : Nat) : Calm p (p.execute r choice).pool := by
  have hpush : Calm p { p with queue := p.queue ++ [r] } := .of_workers rfl
  have hres := execute_result p r choice
  generalize p.execute r choice = e at hres
  cases hres with
  | closed => exact .of_workers rfl
  | woke choice => exact hpush.trans (notifyOne_calm _ choice)
  | grew events _ _ hg => exact hpush.trans hg.calm
  | refused reason _ hm => exact hm.grew.calm
  | notGrown events _ _ hm => exact hpush.trans hm.grew.calm
  | unwound failure _ _ hm => exact hpush.trans hm.grew.calm
  | full => exact hpush

theorem shutdown_calm (p : Pool) : Calm p p.shutdown.pool := by
  have hclosed : Calm p { p with closing := true }.notifyAll :=
    notifyAll_calm { p with closing := true }
  have hres := shutdown_result p
  generalize p.shutdown = e at hres
  cases hres with
  | left => exact hclosed
  | drained => exact hclosed.trans (.of_workers rfl)
  | grew events _ hg => exact hclosed.trans hg.calm
  | stranded reason _ hm => exact (hclosed.trans hm.grew.calm).trans (.of_workers rfl)
  | unwound failure _ hm => exact hclosed.trans hm.grew.calm

/-- A call on the pool starts or wakes workers, and does nothing else to them. -/
theorem act_calm {op : Op} (hop : op.isCall = true) (h : p.act op = some p') : Calm p p' := by
  cases op with
  | execute r choice =>
    cases h
    exact execute_calm p r choice
  | prestart count =>
    cases h
    obtain ⟨n, hg⟩ := prestart_grew p count
    exact hg.calm
  | setCoreSize size =>
    cases h
    obtain ⟨n, hg⟩ := setCoreSize_grew p size
    exact hg.calm
  | withdraw r =>
    cases h
    unfold Pool.withdraw
    split <;> exact .of_workers rfl
  | setFactory factory =>
    cases h
    exact .of_workers rfl
  | shutdown =>
    cases h
    exact shutdown_calm p
  | look i => cases hop
  | expire i => cases hop
  | proceed i phase => cases hop
  | countRun i => cases hop

/-- A worker that comes back to the run queue takes the first record, parks or leaves. -/
theorem look_tally {i : Nat} (h : p.look i = some p') :
    ∃ old new, comesBack old = true ∧
      (∀ f, p'.tally f + (f old).toNat = p.tally f + (f new).toNat) ∧
      ((p'.queue = p.queue ∧ (new = .parked ∨ new = .exited)) ∨
        ∃ r, p.queue = r :: p'.queue ∧ new = .picked r) := by
  obtain ⟨old, hi, hback, hres⟩ := look_result h
  have hqueue : (p.back old).queue = p.queue := by cases old <;> rfl
  have hworkers : (p.back old).workers = p.workers := by cases old <;> rfl
  have htally : ∀ {q : Pool} (new : WorkerPhase), q.workers = (p.back old).workers →
      ∀ f, (q.setPhase i new).tally f + (f old).toNat = p.tally f + (f new).toNat := by
    intro q new hq f
    have hqi : q.phase? i = some old := by rw [phase?_congr (hq.trans hworkers), hi]
    rw [← tally_congr (hq.trans hworkers)]
    exact tally_setPhase hqi new f
  cases hres with
  | @picked r rest hq => exact ⟨old, .picked r, hback, htally _ rfl, .inr ⟨r, hq, rfl⟩⟩
  | parked => exact ⟨old, .parked, hback, htally _ rfl, .inl ⟨hqueue, .inl rfl⟩⟩
  | left => exact ⟨old, .exited, hback, htally _ rfl, .inl ⟨hqueue, .inr rfl⟩⟩

theorem expire_eq_some {i : Nat} (h : p.expire i = some p') :
    p.phase? i = some .parked ∧ p.setPhase i (.woken true) = p' := by
  unfold Pool.expire at h
  split at h
  next hi => exact ⟨hi, Option.some.inj h⟩
  next => cases h

theorem expire_tally {i : Nat} (h : p.expire i = some p') :
    p'.queue = p.queue ∧ ∀ f : WorkerPhase → Bool, f .parked = false → f (.woken true) = false →
      p'.tally f = p.tally f := by
  obtain ⟨hi, rfl⟩ := expire_eq_some h
  refine ⟨rfl, fun f hparked hwoken => ?_⟩
  have htally := tally_setPhase hi (.woken true) f
  rw [hparked, hwoken] at htally
  exact htally

theorem proceed_eq_some {i : Nat} {phase : WorkerPhase} (h : p.proceed i phase = some p') :
    ∃ old, p.phase? i = some old ∧ old.record?.isSome = true ∧ phase.record? = old.record? ∧
      p.setPhase i phase = p' := by
  unfold Pool.proceed at h
  split at h
  next old hi =>
    split at h
    next hold =>
      rw [Bool.and_eq_true, beq_iff_eq] at hold
      exact ⟨old, hi, hold.1, hold.2, Option.some.inj h⟩
    next => cases h
  next => cases h

theorem act_proceed {i : Nat} {old phase : WorkerPhase} {r : Ref} (hi : p.phase? i = some old)
    (hold : old.record? = some r) (hphase : phase.record? = some r) :
    p.act (.proceed i phase) = some (p.setPhase i phase) := by
  show p.proceed i phase = _
  unfold Pool.proceed
  rw [hi]
  simp [hold, hphase]

theorem countRun_eq_some {i : Nat} (h : p.countRun i = some p') :
    ∃ r, p.phase? i = some (.ran r) ∧
      { p with completed := p.completed + 1 }.setPhase i .counted = p' := by
  unfold Pool.countRun at h
  split at h
  next r hi => exact ⟨r, hi, Option.some.inj h⟩
  next => cases h

theorem countRun_tally {i : Nat} (h : p.countRun i = some p') :
    p'.queue = p.queue ∧ ∀ f : WorkerPhase → Bool, (∀ r, f (.ran r) = false) →
      f .counted = false → p'.tally f = p.tally f := by
  obtain ⟨r, hi, rfl⟩ := countRun_eq_some h
  refine ⟨rfl, fun f hran hcounted => ?_⟩
  have htally := tally_setPhase (p := { p with completed := p.completed + 1 }) hi .counted f
  rw [hran, hcounted] at htally
  exact htally

/-! ## Setup -/

/-- The pool has as many workers to start, starts them in the same way, and is closed if it was. -/
structure SameSetup (p p' : Pool) : Prop where
  coreSize : p'.coreSize = p.coreSize
  start : p'.factory.start = p.factory.start
  closing : p'.closing = p.closing

theorem Grew.setup (h : Grew p n p') : SameSetup p p' := ⟨h.coreSize, h.start, h.closing⟩

theorem execute_setup (p : Pool) (r : Ref) (choice : Nat) :
    SameSetup p (p.execute r choice).pool := by
  have hres := execute_result p r choice
  generalize p.execute r choice = e at hres
  cases hres with
  | woke choice =>
    rcases notifyOne_cases { p with queue := p.queue ++ [r] } choice with ⟨-, he⟩ | ⟨i, -, he⟩
    · rw [he]
      exact ⟨rfl, rfl, rfl⟩
    · rw [he]
      exact ⟨rfl, rfl, rfl⟩
  | grew events _ _ hg => exact ⟨hg.coreSize, hg.start, hg.closing⟩
  | refused reason _ hm => exact ⟨hm.grew.coreSize, hm.grew.start, hm.grew.closing⟩
  | notGrown events _ _ hm => exact ⟨hm.grew.coreSize, hm.grew.start, hm.grew.closing⟩
  | unwound failure _ _ hm => exact ⟨hm.grew.coreSize, hm.grew.start, hm.grew.closing⟩
  | _ => exact ⟨rfl, rfl, rfl⟩

theorem execute_closing (p : Pool) (r : Ref) (choice : Nat) :
    (p.execute r choice).pool.closing = p.closing := (execute_setup p r choice).closing

/-- Closing a pool closes it, and leaves the rest of its setup alone. -/
theorem shutdown_setup (p : Pool) :
    SameSetup { p with closing := true } p.shutdown.pool := by
  have hres := shutdown_result p
  generalize p.shutdown = e at hres
  cases hres with
  | left => exact ⟨rfl, rfl, rfl⟩
  | drained => exact ⟨rfl, rfl, rfl⟩
  | grew events _ hg => exact ⟨hg.coreSize, hg.start, hg.closing⟩
  | stranded reason _ hm => exact ⟨hm.grew.coreSize, hm.grew.start, hm.grew.closing⟩
  | unwound failure _ hm => exact ⟨hm.grew.coreSize, hm.grew.start, hm.grew.closing⟩

theorem shutdown_closing (p : Pool) : p.shutdown.pool.closing = true := (shutdown_setup p).closing

/-- What an operation does to the setup of a pool. -/
structure SetsUp (p : Pool) (op : Op) (p' : Pool) : Prop where
  coreSize : (∀ size, op ≠ .setCoreSize size) → p'.coreSize = p.coreSize
  start : (∀ factory, op ≠ .setFactory factory) → p'.factory.start = p.factory.start
  closing : op ≠ .shutdown → p'.closing = p.closing

theorem SameSetup.setsUp (h : SameSetup p p') (op : Op) : SetsUp p op p' :=
  ⟨fun _ => h.coreSize, fun _ => h.start, fun _ => h.closing⟩

/-- The setup of a pool is changed only by the operations that are there for it. -/
theorem act_setup (op : Op) (h : p.act op = some p') : SetsUp p op p' := by
  cases op with
  | execute r choice =>
    cases h
    exact (execute_setup p r choice).setsUp _
  | prestart count =>
    cases h
    obtain ⟨n, hg⟩ := prestart_grew p count
    exact hg.setup.setsUp _
  | setCoreSize size =>
    cases h
    obtain ⟨n, hg⟩ := setCoreSize_grew p size
    exact ⟨fun hop => absurd rfl (hop size), fun _ => hg.start, fun _ => hg.closing⟩
  | withdraw r =>
    cases h
    refine SameSetup.setsUp ?_ _
    unfold Pool.withdraw
    split <;> exact ⟨rfl, rfl, rfl⟩
  | setFactory factory =>
    cases h
    exact ⟨fun _ => rfl, fun hop => absurd rfl (hop factory), fun _ => rfl⟩
  | shutdown =>
    cases h
    have hsetup := shutdown_setup p
    exact ⟨fun _ => hsetup.coreSize, fun _ => hsetup.start, fun hop => absurd rfl hop⟩
  | look i =>
    obtain ⟨phase, -, -, hres⟩ := look_result h
    cases hres <;> exact ⟨fun _ => back_coreSize p phase,
      fun _ => congrArg (·.start) (back_factory p phase), fun _ => back_closing p phase⟩
  | expire i =>
    obtain ⟨-, rfl⟩ := expire_eq_some h
    exact ⟨fun _ => rfl, fun _ => rfl, fun _ => rfl⟩
  | proceed i phase =>
    obtain ⟨old, -, -, -, rfl⟩ := proceed_eq_some h
    exact ⟨fun _ => rfl, fun _ => rfl, fun _ => rfl⟩
  | countRun i =>
    obtain ⟨r, -, rfl⟩ := countRun_eq_some h
    exact ⟨fun _ => rfl, fun _ => rfl, fun _ => rfl⟩

/-- A pool is closed only by a call that does so. -/
theorem act_closing (op : Op) (hop : op ≠ .shutdown) (h : p.act op = some p') :
    p'.closing = p.closing := (act_setup op h).closing hop

end TaskScheduler.Pool
