import TaskScheduler.Proofs.Pool.Coherence

/-
  No lost wakeup, and work conservation.

  The pool decides between waking a worker, starting one and only queueing a record by comparing
  the length of the run queue with the number of idle workers, which still counts those that are
  woken but not yet back. `NoLostWakeup`: while a worker is parked, every waiting record has a woken
  worker on its way. `WorkConserved`: an open pool either has a worker on its way for every waiting
  record, or as many workers as it may have. Each operation keeps the first; each operation without
  a failed start keeps both.
-/
namespace TaskScheduler.Pool

variable {p p' : Pool} {n failed : Nat}

def parkedCount (p : Pool) : Nat := p.tally (·.isParked)

def wokenCount (p : Pool) : Nat := p.tally (·.isWoken)

def startingCount (p : Pool) : Nat := p.tally (·.isStarting)

def busyCount (p : Pool) : Nat := p.tally (·.isBusy)

/-- While a worker is parked, there is a woken one for every record in the run queue. -/
def NoLostWakeup (p : Pool) : Prop := 0 < p.parkedCount → p.queue.length ≤ p.wokenCount

/-- An open pool has a worker on its way for every record in the run queue, or is as large as it
may be. -/
def WorkConserved (p : Pool) : Prop :=
  p.closing = false → p.queue.length ≤ p.wokenCount + p.startingCount ∨ p.coreSize ≤ p.live

theorem Coherent.idle_eq (h : Coherent p) : p.idle = p.parkedCount + p.wokenCount := by
  rw [h.idle]
  exact tally_eq_add (fun phase => by cases phase <;> rfl) p

theorem Coherent.live_eq (h : Coherent p) :
    p.live = p.parkedCount + p.wokenCount + p.startingCount + p.busyCount := by
  have hidle : p.tally (·.isIdle) = p.parkedCount + p.wokenCount :=
    tally_eq_add (fun phase => by cases phase <;> rfl) p
  have hatWork : p.tally (fun phase => phase.isStarting || phase.isBusy) =
      p.startingCount + p.busyCount :=
    tally_eq_add (fun phase => by cases phase <;> rfl) p
  have hlive : p.tally (·.isLive) =
      p.tally (·.isIdle) + p.tally (fun phase => phase.isStarting || phase.isBusy) :=
    tally_eq_add (fun phase => by cases phase <;> rfl) p
  rw [h.live]
  omega

/-! ## Starting workers -/

theorem Grew.noLostWakeup (hg : Grew p n p') (h : NoLostWakeup p) : NoLostWakeup p' := by
  intro hparked
  rw [parkedCount, hg.tally rfl] at hparked
  rw [hg.queue, wokenCount, hg.tally rfl]
  exact h hparked

theorem Grew.workConserved (hg : Grew p n p') (h : WorkConserved p) : WorkConserved p' := by
  intro hopen
  have hwoken : p'.wokenCount = p.wokenCount := hg.tally rfl
  have hstarting : p'.startingCount = p.startingCount + n := hg.tally_starting rfl
  rw [hg.queue, hg.coreSize, hg.live, hwoken, hstarting]
  rcases h (hg.closing.symm.trans hopen) with hq | hcore
  · left
    omega
  · right
    omega

/-! ## Calls on the pool -/

/-- Waking one worker for one more record. -/
theorem push_notifyOne (h : NoLostWakeup p) (hc : Coherent p) (r : Ref)
    (hidle : p.queue.length < p.idle) (choice : Nat) :
    NoLostWakeup ({ p with queue := p.queue ++ [r] }.notifyOne choice) ∧
      WorkConserved ({ p with queue := p.queue ++ [r] }.notifyOne choice) := by
  have hsplit := hc.idle_eq
  rcases notifyOne_cases { p with queue := p.queue ++ [r] } choice with ⟨hnone, he⟩ | ⟨i, hi, he⟩
  · have hnone' : p.parkedCount = 0 := hnone
    rw [he]
    refine ⟨fun hparked => absurd hparked (by rw [parkedCount, hnone]; decide), fun _ => .inl ?_⟩
    show (p.queue ++ [r]).length ≤ p.wokenCount + p.startingCount
    rw [List.length_append, List.length_singleton]
    omega
  · have hi' : p.phase? i = some .parked := hi
    have hwoken : (p.setPhase i (.woken false)).wokenCount + 0 = p.wokenCount + 1 :=
      tally_setPhase hi' (.woken false) (·.isWoken)
    have hpos : 0 < p.parkedCount := tally_pos hi' rfl
    have hq := h hpos
    have hlen : (p.queue ++ [r]).length ≤ (p.setPhase i (.woken false)).wokenCount := by
      rw [List.length_append, List.length_singleton]
      omega
    rw [he]
    exact ⟨fun _ => hlen, fun _ => .inl (Nat.le_trans hlen (Nat.le_add_right _ _))⟩

/-- With no idle worker to spare for one more record, none is parked. -/
theorem parkedCount_eq_zero (h : NoLostWakeup p) (hc : Coherent p)
    (hbusy : p.idle ≤ p.queue.length) : p.parkedCount = 0 := by
  have hsplit := hc.idle_eq
  rcases Nat.eq_zero_or_pos p.parkedCount with h0 | hpos
  · exact h0
  · have := h hpos
    omega

theorem NoLostWakeup.execute (h : NoLostWakeup p) (hc : Coherent p) (r : Ref) (choice : Nat) :
    NoLostWakeup (p.execute r choice).pool := by
  have hpush : p.idle ≤ p.queue.length → NoLostWakeup { p with queue := p.queue ++ [r] } :=
    fun hbusy hparked => absurd hparked (by
      show ¬ 0 < p.parkedCount
      rw [parkedCount_eq_zero h hc hbusy]
      decide)
  have hres := execute_result p r choice
  generalize p.execute r choice = e at hres
  cases hres with
  | closed => exact h
  | woke choice _ hidle => exact (push_notifyOne h hc r hidle choice).1
  | grew events _ hbusy hg => exact hg.noLostWakeup (hpush hbusy)
  | refused reason _ hm => exact hm.grew.noLostWakeup h
  | notGrown events _ hbusy hm => exact hm.grew.noLostWakeup (hpush hbusy)
  | unwound failure _ hbusy hm => exact hm.grew.noLostWakeup (hpush hbusy)
  | full _ hbusy => exact hpush hbusy

theorem WorkConserved.execute (hb : WorkConserved p) (h : NoLostWakeup p) (hc : Coherent p)
    (r : Ref) (choice : Nat)
    (hstarts : p.failedStarts (.execute r choice) (p.execute r choice).pool = 0) :
    WorkConserved (p.execute r choice).pool := by
  have hres := execute_result p r choice
  unfold failedStarts at hstarts
  generalize p.execute r choice = e at hres hstarts
  have hmissed : ∀ {q same : Pool}, Missed q same → q.factory = p.factory →
      q.nextIndex = p.nextIndex →
      same.factory.attempts - p.factory.attempts - (same.nextIndex - p.nextIndex) ≠ 0 := by
    intro q same hm hf hn
    rw [hm.attempts, hm.grew.nextIndex, hf, hn]
    omega
  cases hres with
  | closed hclosing => exact fun hopen => absurd (hclosing.symm.trans hopen) (by decide)
  | woke choice _ hidle => exact (push_notifyOne h hc r hidle choice).2
  | @grew grown events hopen hbusy hg =>
    intro _
    have hwoken : grown.wokenCount = p.wokenCount := hg.tally rfl
    have hstarting : grown.startingCount = p.startingCount + 1 := hg.tally_starting rfl
    have hlive : grown.live = p.live + 1 := hg.live
    have hcore : grown.coreSize = p.coreSize := hg.coreSize
    have hlen : grown.queue.length = p.queue.length + 1 := by
      rw [hg.queue, List.length_append, List.length_singleton]
    rcases hb hopen with hq | hfull
    · left
      show grown.queue.length ≤ grown.wokenCount + grown.startingCount
      omega
    · right
      show grown.coreSize ≤ grown.live
      omega
  | refused reason _ hm => exact absurd hstarts (hmissed hm rfl rfl)
  | notGrown events _ _ hm => exact absurd hstarts (hmissed hm rfl rfl)
  | unwound failure _ _ hm => exact absurd hstarts (hmissed hm rfl rfl)
  | full _ _ hcore => exact fun _ => .inr hcore

/-- Growing the core size starts workers for the records that no idle worker is there for. -/
theorem workConserved_setCoreSize (h : NoLostWakeup p) (hc : Coherent p) (size : Nat)
    (hstarts : p.failedStarts (.setCoreSize size) (p.setCoreSize size).pool = 0) :
    WorkConserved (p.setCoreSize size).pool := by
  unfold Pool.setCoreSize at hstarts ⊢
  split
  next hclosing => exact fun hopen => absurd (hclosing.symm.trans hopen) (by decide)
  next hopen =>
    rw [if_neg hopen] at hstarts
    obtain ⟨n, hg, hall⟩ := growForQueue_grew p.coreSize { p with coreSize := max size 1 }
      (min (p.queue.length - p.idle) (max size 1 - p.live))
    generalize growForQueue p.coreSize { p with coreSize := max size 1 }
      (min (p.queue.length - p.idle) (max size 1 - p.live)) = e at hg hall hstarts ⊢
    have hn : n = min (p.queue.length - p.idle) (max size 1 - p.live) := by
      apply hall
      have hatt : p.factory.attempts + n ≤ e.pool.factory.attempts := hg.attempts
      have hindex : e.pool.nextIndex = p.nextIndex + n := hg.nextIndex
      show e.pool.factory.attempts = p.factory.attempts + n
      unfold failedStarts at hstarts
      simp only at hstarts
      omega
    have hwoken : e.pool.wokenCount = p.wokenCount := hg.tally rfl
    have hstarting : e.pool.startingCount = p.startingCount + n := hg.tally_starting rfl
    have hlive : e.pool.live = p.live + n := hg.live
    have hcore : e.pool.coreSize = max size 1 := hg.coreSize
    have hqueue : e.pool.queue = p.queue := hg.queue
    have hsplit := hc.idle_eq
    have hlost : 0 < p.parkedCount → p.queue.length ≤ p.wokenCount := h
    intro _
    rw [hqueue, hcore, hwoken, hstarting, hlive]
    omega

theorem withdraw_cases (p : Pool) (r : Ref) :
    (p.withdraw r).1 = p ∨ (p.withdraw r).1 = { p with queue := p.queue.erase r } := by
  unfold withdraw
  split
  · exact .inr rfl
  · exact .inl rfl

/-! ## Sections of workers -/

/-- The effect of a change of phase on the counts that matter here. -/
theorem counts_setPhase {q : Pool} {i : Nat} {old : WorkerPhase} (hi : p.phase? i = some old)
    (hw : q.workers = p.workers) (phase : WorkerPhase) :
    (q.setPhase i phase).parkedCount + old.isParked.toNat =
        p.parkedCount + phase.isParked.toNat ∧
      (q.setPhase i phase).wokenCount + old.isWoken.toNat = p.wokenCount + phase.isWoken.toNat ∧
      (q.setPhase i phase).startingCount + old.isStarting.toNat =
        p.startingCount + phase.isStarting.toNat := by
  have hiq : q.phase? i = some old := by rw [phase?_congr hw, hi]
  have h := fun f => tally_setPhase hiq phase f
  simp only [tally_congr hw] at h
  exact ⟨h _, h _, h _⟩

theorem noLostWakeup_of_empty (h : p.queue = []) : NoLostWakeup p := by
  intro _
  rw [h]
  exact Nat.zero_le _

theorem workConserved_of_empty (h : p.queue = []) : WorkConserved p := by
  intro _
  rw [h]
  exact .inl (Nat.zero_le _)

/-- A worker that comes back takes a record off the run queue, or finds it empty. -/
theorem look_keeps {i : Nat} (hl : p.look i = some p') :
    (NoLostWakeup p → NoLostWakeup p') ∧ (WorkConserved p → WorkConserved p') := by
  obtain ⟨phase, hi, hb, hres⟩ := look_result hl
  have hw := back_workers p phase
  have hcore := back_coreSize p phase
  have hlive := back_live p phase
  have hclosing := back_closing p phase
  have hqueue := back_queue p phase
  have hparked : phase.isParked.toNat = 0 := by cases phase <;> first | rfl | cases hb
  have hone : phase.isWoken.toNat + phase.isStarting.toNat ≤ 1 := by
    cases phase <;> first | exact Nat.le_refl 1 | exact Nat.zero_le 1
  cases hres with
  | @picked r rest hq =>
    have hcounts := counts_setPhase (q := { p.back phase with
      queue := rest, active := (p.back phase).active + 1 }) hi hw (.picked r)
    generalize hp' : Pool.setPhase _ i (.picked r) = p' at hcounts
    have hpark : p'.parkedCount + phase.isParked.toNat = p.parkedCount := hcounts.1
    have hwoken : p'.wokenCount + phase.isWoken.toNat = p.wokenCount := hcounts.2.1
    have hstarting : p'.startingCount + phase.isStarting.toNat = p.startingCount := hcounts.2.2
    have hlen : p.queue.length = rest.length + 1 := by rw [hq, List.length_cons]
    have hqueue' : p'.queue = rest := by rw [← hp']; rfl
    have hcore' : p'.coreSize = p.coreSize := by rw [← hp', ← hcore]; rfl
    have hlive' : p'.live = p.live := by rw [← hp', ← hlive]; rfl
    have hclosing' : p'.closing = p.closing := by rw [← hp', ← hclosing]; rfl
    constructor
    · intro h hpos
      have := h (by omega)
      rw [hqueue']
      omega
    · intro h hopen
      rw [hqueue', hcore', hlive']
      rcases h (hclosing'.symm.trans hopen) with hle | hfull
      · left
        omega
      · exact .inr hfull
  | parked hnil =>
    exact ⟨fun _ => noLostWakeup_of_empty (hqueue.trans hnil),
      fun _ => workConserved_of_empty (hqueue.trans hnil)⟩
  | left hnil =>
    exact ⟨fun _ => noLostWakeup_of_empty (hqueue.trans hnil),
      fun _ => workConserved_of_empty (hqueue.trans hnil)⟩

/-- A worker whose phase changes between ones that are of no account here. -/
theorem setPhase_keeps {q : Pool} {i : Nat} {old phase : WorkerPhase} (hi : p.phase? i = some old)
    (hold : old.isBusy = true) (hphase : phase.isBusy = true) (hq : q.workers = p.workers)
    (hqueue : q.queue = p.queue) (hclosing : q.closing = p.closing)
    (hcore : q.coreSize = p.coreSize) (hlive : q.live = p.live) :
    (NoLostWakeup p → NoLostWakeup (q.setPhase i phase)) ∧
      (WorkConserved p → WorkConserved (q.setPhase i phase)) := by
  have hquiet : ∀ {a : WorkerPhase}, a.isBusy = true →
      a.isParked = false ∧ a.isWoken = false ∧ a.isStarting = false := by
    intro a ha
    cases a <;> first | exact ⟨rfl, rfl, rfl⟩ | cases ha
  obtain ⟨hpark, hwoken, hstarting⟩ := counts_setPhase hi hq phase
  rw [(hquiet hold).1, (hquiet hphase).1] at hpark
  rw [(hquiet hold).2.1, (hquiet hphase).2.1] at hwoken
  rw [(hquiet hold).2.2, (hquiet hphase).2.2] at hstarting
  constructor
  · intro h hpos
    show q.queue.length ≤ _
    rw [hqueue, Nat.add_right_cancel hwoken]
    exact h (Nat.add_right_cancel hpark ▸ hpos)
  · intro h hopen
    show q.queue.length ≤ _ ∨ q.coreSize ≤ q.live
    rw [hqueue, hcore, hlive, Nat.add_right_cancel hwoken, Nat.add_right_cancel hstarting]
    exact h (hclosing.symm.trans hopen)

theorem expire_keeps {i : Nat} (he : p.expire i = some p') :
    (NoLostWakeup p → NoLostWakeup p') ∧ (WorkConserved p → WorkConserved p') := by
  obtain ⟨hi, rfl⟩ := expire_eq_some he
  obtain ⟨hpark, hwoken, hstarting⟩ := counts_setPhase hi (q := p) rfl (.woken true)
  simp only [WorkerPhase.isParked, WorkerPhase.isWoken, WorkerPhase.isStarting,
    Bool.toNat_false, Bool.toNat_true] at hpark hwoken hstarting
  constructor
  · intro h hpos
    have := h (by omega)
    show p.queue.length ≤ _
    omega
  · intro h hopen
    show p.queue.length ≤ _ ∨ p.coreSize ≤ p.live
    rcases h hopen with hle | hfull
    · left
      omega
    · exact .inr hfull

/-! ## Closing -/

theorem shutdown_noLostWakeup (p : Pool) : NoLostWakeup p.shutdown.pool := by
  have hnone : ({ p with closing := true } : Pool).notifyAll.parkedCount = 0 := by
    refine tally_eq_zero_iff.mpr fun i phase hi => ?_
    rw [phase?_notifyAll, Option.map_eq_some_iff] at hi
    obtain ⟨old, -, rfl⟩ := hi
    cases old <;> rfl
  have hclosed : NoLostWakeup ({ p with closing := true } : Pool).notifyAll := by
    intro hpos
    rw [hnone] at hpos
    cases hpos
  have hres := shutdown_result p
  generalize p.shutdown = e at hres
  cases hres with
  | left => exact hclosed
  | drained _ hqueue => exact noLostWakeup_of_empty hqueue
  | grew events _ hg => exact hg.noLostWakeup hclosed
  | stranded reason _ hm => exact noLostWakeup_of_empty rfl
  | unwound failure _ hm => exact hm.grew.noLostWakeup hclosed

/-! ## Runs -/

theorem act_noLostWakeup {op : Op} (hc : Coherent p) (h : NoLostWakeup p)
    (ha : p.act op = some p') : NoLostWakeup p' := by
  cases op with
  | execute r choice =>
    cases ha
    exact h.execute hc r choice
  | prestart count =>
    cases ha
    obtain ⟨n, hg⟩ := prestart_grew p count
    exact hg.noLostWakeup h
  | setCoreSize size =>
    cases ha
    obtain ⟨n, hg⟩ := setCoreSize_grew p size
    exact hg.noLostWakeup (p := { p with coreSize := max size 1 }) h
  | withdraw r =>
    cases ha
    rcases withdraw_cases p r with he | he
    · rw [he]
      exact h
    · rw [he]
      exact fun hpos => Nat.le_trans List.length_erase_le (h hpos)
  | setFactory factory =>
    cases ha
    exact h
  | shutdown =>
    cases ha
    exact shutdown_noLostWakeup p
  | look i => exact (look_keeps ha).1 h
  | expire i => exact (expire_keeps ha).1 h
  | proceed i phase =>
    obtain ⟨old, hi, hold, hsame, rfl⟩ := proceed_eq_some ha
    exact (setPhase_keeps hi (busy_of_record hold).2.2 (busy_of_record (hsame ▸ hold)).2.2
      rfl rfl rfl rfl rfl).1 h
  | countRun i =>
    obtain ⟨r, hi, rfl⟩ := countRun_eq_some ha
    exact (setPhase_keeps hi rfl rfl rfl rfl rfl rfl rfl).1 h

theorem act_workConserved {op : Op} (hc : Coherent p) (h : NoLostWakeup p) (hb : WorkConserved p)
    (ha : p.act op = some p') (hstarts : p.failedStarts op p' = 0) : WorkConserved p' := by
  cases op with
  | execute r choice =>
    cases ha
    exact hb.execute h hc r choice hstarts
  | prestart count =>
    cases ha
    obtain ⟨n, hg⟩ := prestart_grew p count
    exact hg.workConserved hb
  | setCoreSize size =>
    cases ha
    exact workConserved_setCoreSize h hc size hstarts
  | withdraw r =>
    cases ha
    rcases withdraw_cases p r with he | he
    · rw [he]
      exact hb
    · rw [he]
      exact fun hopen => (hb hopen).imp (Nat.le_trans List.length_erase_le) id
  | setFactory factory =>
    cases ha
    exact hb
  | shutdown =>
    cases ha
    intro hopen
    rw [shutdown_closing] at hopen
    cases hopen
  | look i => exact (look_keeps ha).2 hb
  | expire i => exact (expire_keeps ha).2 hb
  | proceed i phase =>
    obtain ⟨old, hi, hold, hsame, rfl⟩ := proceed_eq_some ha
    exact (setPhase_keeps hi (busy_of_record hold).2.2 (busy_of_record (hsame ▸ hold)).2.2
      rfl rfl rfl rfl rfl).2 hb
  | countRun i =>
    obtain ⟨r, hi, rfl⟩ := countRun_eq_some ha
    exact (setPhase_keeps hi rfl rfl rfl rfl rfl rfl rfl).2 hb

theorem Reachable.noLostWakeup (h : Reachable p failed) : NoLostWakeup p := by
  induction h with
  | initial config => exact noLostWakeup_of_empty rfl
  | act op hp ha ih => exact act_noLostWakeup hp.coherent ih ha

theorem Reachable.workConserved (h : Reachable p failed) (h0 : failed = 0) : WorkConserved p := by
  induction h with
  | initial config => exact workConserved_of_empty rfl
  | act op hp ha ih =>
    obtain ⟨hbefore, hstarts⟩ := Nat.add_eq_zero_iff.mp h0
    exact act_workConserved hp.coherent hp.noLostWakeup (ih hbefore) ha hstarts

/-- The pool wakes a worker for every waiting record while it has one to wake, and it uses as many
workers as it may. When no worker is on its way to the run queue and a record waits there, no worker
is idle, and as many as the core size are busy. -/
theorem waiting_records_are_served (h : Reachable p failed) :
    (0 < p.parkedCount → p.queue.length ≤ p.wokenCount) ∧
      (failed = 0 → p.closing = false →
        p.queue.length ≤ p.wokenCount + p.startingCount ∨ p.coreSize ≤ p.live) ∧
      (p.wokenCount = 0 → p.startingCount = 0 → p.queue ≠ [] →
        p.idle = 0 ∧ (failed = 0 → p.closing = false → p.coreSize ≤ p.busyCount)) := by
  have hwakeup := h.noLostWakeup
  refine ⟨hwakeup, fun h0 => h.workConserved h0, ?_⟩
  intro hwoken hstarting hne
  have hlen : 0 < p.queue.length := List.length_pos_iff.mpr hne
  have hparked : p.parkedCount = 0 := by
    rcases Nat.eq_zero_or_pos p.parkedCount with h0 | hpos
    · exact h0
    · have := hwakeup hpos
      omega
  have hidle := h.coherent.idle_eq
  have hlive := h.coherent.live_eq
  refine ⟨by omega, fun h0 hopen => ?_⟩
  rcases h.workConserved h0 hopen with hle | hfull
  · omega
  · omega

/-- One worker, two records: the worker is at the first, the second waits, and no one is idle. -/
theorem second_record_waits_for_busy_worker :
    ∃ p : Pool, Reachable p 0 ∧ p.closing = false ∧ p.wokenCount = 0 ∧ p.startingCount = 0 ∧
      p.queue = [8] ∧ p.idle = 0 ∧ p.coreSize ≤ p.busyCount := by
  have hstart : Reachable _ 0 :=
    .act (.setFactory { start := fun _ _ => .started "worker" })
      (.initial .lenient (.sized 1 1)) rfl
  have hfirst : Reachable _ 0 := .act (.execute 7 0) (.act (.setCoreSize 1) hstart rfl) rfl
  have hpicked : Reachable _ 0 := .act (.look 0) hfirst rfl
  have hsecond : Reachable _ 0 := .act (.execute 8 0) hpicked rfl
  obtain ⟨hidle, hbusy⟩ := (waiting_records_are_served hsecond).2.2 rfl rfl (by decide)
  exact ⟨_, hsecond, rfl, rfl, rfl, rfl, hidle, hbusy rfl rfl⟩

end TaskScheduler.Pool
