import TaskScheduler.Proofs.Pool.Run

/-
  The counters of the pool.

  `Coherent`: `live`, `idle` and `active` agree with what the workers are doing. Every operation
  keeps this, so it holds in every reachable pool. `act_hasDrained`: a drained pool stays drained,
  since no worker is left in it.
-/
namespace TaskScheduler.Pool

variable {p p' : Pool} {n : Nat}

/-! ## Counters -/

/-- The counters agree with what the workers are doing. -/
structure Coherent (p : Pool) : Prop where
  live : p.live = p.tally (·.isLive)
  idle : p.idle = p.tally (·.isIdle)
  active : p.active = p.tally (·.isBusy)
  nextIndex : p.nextIndex = p.workers.length

theorem Coherent.congr (h : Coherent p) (hw : p'.workers = p.workers) (hl : p'.live = p.live)
    (hi : p'.idle = p.idle) (ha : p'.active = p.active) (hn : p'.nextIndex = p.nextIndex) :
    Coherent p' where
  live := by rw [hl, h.live, tally_congr hw]
  idle := by rw [hi, h.idle, tally_congr hw]
  active := by rw [ha, h.active, tally_congr hw]
  nextIndex := by rw [hn, h.nextIndex, hw]

theorem Grew.coherent (h : Grew p n p') (hc : Coherent p) : Coherent p' where
  live := by rw [h.live, h.tally_starting rfl, hc.live]
  idle := by rw [h.idle, h.tally rfl, hc.idle]
  active := by rw [h.active, h.tally rfl, hc.active]
  nextIndex := by
    obtain ⟨new, hw, hlen, -⟩ := h.workers
    rw [h.nextIndex, hw, List.length_append, hlen, hc.nextIndex]

/-- One worker changes its phase, and the counters change with it. -/
theorem Coherent.setPhase {q : Pool} {i : Nat} {old phase : WorkerPhase} (h : Coherent p)
    (hi : p.phase? i = some old) (hw : q.workers = p.workers) (hn : q.nextIndex = p.nextIndex)
    (hl : q.live + old.isLive.toNat = p.live + phase.isLive.toNat)
    (hidle : q.idle + old.isIdle.toNat = p.idle + phase.isIdle.toNat)
    (ha : q.active + old.isBusy.toNat = p.active + phase.isBusy.toNat) :
    Coherent (q.setPhase i phase) := by
  have hiq : q.phase? i = some old := by rw [phase?_congr hw, hi]
  have hlive := tally_setPhase hiq phase (·.isLive)
  have hidle' := tally_setPhase hiq phase (·.isIdle)
  have hbusy := tally_setPhase hiq phase (·.isBusy)
  rw [tally_congr hw, ← h.live] at hlive
  rw [tally_congr hw, ← h.idle] at hidle'
  rw [tally_congr hw, ← h.active] at hbusy
  constructor
  · show q.live = _
    omega
  · show q.idle = _
    omega
  · show q.active = _
    omega
  · show q.nextIndex = (q.workers.modify i _).length
    rw [List.length_modify, hw, hn, h.nextIndex]

theorem Coherent.notifyOne (h : Coherent p) (choice : Nat) : Coherent (p.notifyOne choice) := by
  rcases notifyOne_cases p choice with ⟨-, he⟩ | ⟨i, hi, he⟩
  · rw [he]
    exact h
  · rw [he]
    exact h.setPhase hi rfl rfl rfl rfl rfl

theorem Coherent.notifyAll (h : Coherent p) : Coherent p.notifyAll where
  live := by rw [tally_notifyAll rfl, ← h.live]; rfl
  idle := by rw [tally_notifyAll rfl, ← h.idle]; rfl
  active := by rw [tally_notifyAll rfl, ← h.active]; rfl
  nextIndex := by
    show p.nextIndex = (p.workers.map _).length
    rw [List.length_map, h.nextIndex]

theorem Coherent.execute (h : Coherent p) (r : Ref) (choice : Nat) :
    Coherent (p.execute r choice).pool := by
  have hpush : Coherent { p with queue := p.queue ++ [r] } := h.congr rfl rfl rfl rfl rfl
  have hres := execute_result p r choice
  generalize p.execute r choice = e at hres
  cases hres with
  | closed => exact h
  | woke choice => exact hpush.notifyOne choice
  | grew events _ _ hg => exact hg.coherent hpush
  | refused reason _ hm => exact hm.grew.coherent h
  | notGrown events _ _ hm => exact hm.grew.coherent hpush
  | unwound failure _ _ hm => exact hm.grew.coherent hpush
  | full => exact hpush

theorem Coherent.shutdown (h : Coherent p) : Coherent p.shutdown.pool := by
  have hclosed : Coherent { p with closing := true }.notifyAll :=
    Coherent.notifyAll (h.congr rfl rfl rfl rfl rfl)
  have hres := shutdown_result p
  generalize p.shutdown = e at hres
  cases hres with
  | left => exact hclosed
  | drained => exact hclosed.congr rfl rfl rfl rfl rfl
  | grew events _ hg => exact hg.coherent hclosed
  | stranded reason _ hm => exact (hm.grew.coherent hclosed).congr rfl rfl rfl rfl rfl
  | unwound failure _ hm => exact hm.grew.coherent hclosed

/-- Coming back takes a worker out of the counter that it was in. -/
theorem Coherent.back {i : Nat} {phase : WorkerPhase} (h : Coherent p)
    (hi : p.phase? i = some phase) (hb : comesBack phase = true) :
    (p.back phase).live = p.live ∧
      (p.back phase).idle + phase.isIdle.toNat = p.idle ∧
      (p.back phase).active + phase.isBusy.toNat = p.active := by
  have hidle : phase.isIdle = true → 0 < p.idle := fun hf => h.idle ▸ tally_pos hi hf
  have hactive : phase.isBusy = true → 0 < p.active := fun hf => h.active ▸ tally_pos hi hf
  cases phase with
  | starting => exact ⟨rfl, rfl, rfl⟩
  | counted =>
    have := hactive rfl
    exact ⟨rfl, rfl, Nat.sub_add_cancel this⟩
  | woken timedOut =>
    have := hidle rfl
    exact ⟨rfl, Nat.sub_add_cancel this, rfl⟩
  | _ => cases hb

theorem Coherent.look {i : Nat} (h : Coherent p) (hl : p.look i = some p') : Coherent p' := by
  obtain ⟨phase, hi, hb, hres⟩ := look_result hl
  obtain ⟨hlive, hidle, hactive⟩ := h.back hi hb
  have hphase := isLive_of_comesBack hb
  have hpos : 0 < p.live := h.live ▸ tally_pos hi hphase
  have hw := back_workers p phase
  have hn := back_nextIndex p phase
  cases hres with
  | picked =>
    refine h.setPhase hi hw hn ?_ hidle ?_
    · show (p.back phase).live + phase.isLive.toNat = p.live + 1
      rw [hphase, hlive]
      rfl
    · show (p.back phase).active + 1 + phase.isBusy.toNat = p.active + 1
      omega
  | parked =>
    refine h.setPhase hi hw hn ?_ ?_ hactive
    · show (p.back phase).live + phase.isLive.toNat = p.live + 1
      rw [hphase, hlive]
      rfl
    · show (p.back phase).idle + 1 + phase.isIdle.toNat = p.idle + 1
      omega
  | left =>
    refine h.setPhase hi hw hn ?_ hidle hactive
    show (p.back phase).live - 1 + phase.isLive.toNat = p.live
    rw [hphase, hlive]
    exact Nat.sub_add_cancel hpos

theorem Coherent.expire {i : Nat} (h : Coherent p) (he : p.expire i = some p') : Coherent p' := by
  obtain ⟨hi, rfl⟩ := expire_eq_some he
  exact h.setPhase hi rfl rfl rfl rfl rfl

/-- A phase in which a worker has a record in hand is live, busy and not idle. -/
theorem busy_of_record {phase : WorkerPhase} (h : phase.record?.isSome = true) :
    phase.isLive = true ∧ phase.isIdle = false ∧ phase.isBusy = true := by
  cases phase <;> first | exact ⟨rfl, rfl, rfl⟩ | cases h

theorem Coherent.proceed {i : Nat} {phase : WorkerPhase} (h : Coherent p)
    (hp : p.proceed i phase = some p') : Coherent p' := by
  obtain ⟨old, hi, hold, hsame, rfl⟩ := proceed_eq_some hp
  obtain ⟨hl, hidle, hbusy⟩ := busy_of_record hold
  obtain ⟨hl', hidle', hbusy'⟩ := busy_of_record (hsame ▸ hold)
  refine h.setPhase hi rfl rfl ?_ ?_ ?_
  · rw [hl, hl']
  · rw [hidle, hidle']
  · rw [hbusy, hbusy']

theorem Coherent.act {op : Op} (h : Coherent p) (ha : p.act op = some p') : Coherent p' := by
  cases op with
  | execute r choice =>
    cases ha
    exact h.execute r choice
  | prestart count =>
    cases ha
    obtain ⟨n, hg⟩ := prestart_grew p count
    exact hg.coherent h
  | setCoreSize size =>
    cases ha
    obtain ⟨n, hg⟩ := setCoreSize_grew p size
    exact hg.coherent (h.congr rfl rfl rfl rfl rfl)
  | withdraw r =>
    cases ha
    unfold Pool.withdraw
    split
    · exact h.congr rfl rfl rfl rfl rfl
    · exact h
  | setFactory factory =>
    cases ha
    exact h.congr rfl rfl rfl rfl rfl
  | shutdown =>
    cases ha
    exact h.shutdown
  | look i => exact h.look ha
  | expire i => exact h.expire ha
  | proceed i phase => exact h.proceed ha
  | countRun i =>
    obtain ⟨r, hi, rfl⟩ := countRun_eq_some ha
    exact h.setPhase hi rfl rfl rfl rfl rfl

theorem Reachable.coherent {failed : Nat} (h : Reachable p failed) : Coherent p := by
  induction h with
  | initial config => exact ⟨rfl, rfl, rfl, rfl⟩
  | act op _ ha ih => exact ih.act ha

/-! ## Drained pools -/

/-- Nobody is left who could do anything in a drained pool. -/
theorem Coherent.exited (h : Coherent p) (hlive : p.live = 0) {i : Nat} {phase : WorkerPhase}
    (hi : p.phase? i = some phase) : phase = .exited := by
  have hnone : phase.isLive = false := tally_eq_zero_iff.mp (h.live.symm.trans hlive) i phase hi
  cases phase <;> first | rfl | cases hnone

theorem hasDrained_iff :
    p.hasDrained = true ↔ p.closing = true ∧ p.live = 0 ∧ p.queue = [] := by
  rw [hasDrained, Bool.and_eq_true, Bool.and_eq_true, beq_iff_eq, List.isEmpty_iff, and_assoc]

/-- A drained pool stays drained, whatever is asked of it. -/
theorem act_hasDrained {op : Op} (hc : Coherent p) (hd : p.hasDrained = true)
    (h : p.act op = some p') : p'.hasDrained = true := by
  obtain ⟨hclosing, hlive, hqueue⟩ := hasDrained_iff.mp hd
  have hexited : ∀ {i phase}, p.phase? i = some phase → phase = .exited := hc.exited hlive
  cases op with
  | execute r choice =>
    cases h
    show (p.execute r choice).pool.hasDrained = true
    unfold Pool.execute
    rw [if_pos hclosing]
    exact hd
  | prestart count =>
    cases h
    show (p.prestart count).pool.hasDrained = true
    unfold Pool.prestart
    rw [if_pos hclosing]
    exact hd
  | setCoreSize size =>
    cases h
    show (p.setCoreSize size).pool.hasDrained = true
    unfold Pool.setCoreSize
    rw [if_pos hclosing]
    exact hd
  | withdraw r =>
    cases h
    refine hasDrained_iff.mpr ?_
    unfold Pool.withdraw
    split
    · exact ⟨hclosing, hlive, by rw [hqueue]; rfl⟩
    · exact ⟨hclosing, hlive, hqueue⟩
  | setFactory factory =>
    cases h
    exact hd
  | shutdown =>
    cases h
    refine hasDrained_iff.mpr ?_
    unfold Pool.shutdown
    rw [if_neg (by omega), hqueue, List.isEmpty_nil, if_pos rfl]
    exact ⟨rfl, hlive, rfl⟩
  | look i =>
    obtain ⟨phase, hi, hback, -⟩ := look_result h
    rw [hexited hi] at hback
    cases hback
  | expire i =>
    obtain ⟨hi, -⟩ := expire_eq_some h
    cases hexited hi
  | proceed i phase =>
    obtain ⟨old, hi, hold, -, -⟩ := proceed_eq_some h
    rw [hexited hi] at hold
    cases hold
  | countRun i =>
    obtain ⟨r, hi, -⟩ := countRun_eq_some h
    cases hexited hi

end TaskScheduler.Pool
