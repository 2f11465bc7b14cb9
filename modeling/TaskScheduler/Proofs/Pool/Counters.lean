import TaskScheduler.Proofs.Pool.Coherence
import TaskScheduler.Proofs.Trace

/-
  The counters of a pool over a whole run, and the indexes of its workers.

  `Recruiting p op n p'`: a call starts `n` workers, one after the other and below the core size,
  and changes no counter but for them. `Counts p op p'` says what any operation, a call or a section
  of a worker, does to the largest number of workers, to the gauge and to the indexes; with
  `Coherent` it is all that the induction over a run needs (`Tracked.act`). `counters_hold`: what is
  then true of the counters in every state of every run, whatever the factory does.
-/
namespace TaskScheduler

def WorkerPhase.isExited : WorkerPhase → Bool
  | exited => true
  | _ => false

namespace Pool

variable {p p' : Pool} {n : Nat} {op : Op}

/-! ## Calls -/

/-- The counters of a pool that has `n` more workers. -/
structure Rise (p : Pool) (n : Nat) (p' : Pool) : Prop where
  live : p'.live = p.live + n
  nextIndex : p'.nextIndex = p.nextIndex + n
  completed : p'.completed = p.completed
  largest : p'.largest = if n = 0 then p.largest else max p.largest p'.live
  gauge : p'.threadsGauge = if n = 0 then p.threadsGauge else some p'.live
  signals : p.drainSignals ≤ p'.drainSignals

theorem Grew.rise (h : Grew p n p') : Rise p n p' :=
  ⟨h.live, h.nextIndex, h.completed, h.largest, h.gauge, Nat.le_of_eq h.signals.symm⟩

theorem Rise.refl (p : Pool) : Rise p 0 p := ⟨rfl, rfl, rfl, rfl, rfl, Nat.le_refl _⟩

theorem notifyOne_rise (p : Pool) (choice : Nat) : Rise p 0 (p.notifyOne choice) := by
  rcases notifyOne_cases p choice with ⟨-, he⟩ | ⟨i, -, he⟩
  · rw [he]
    exact .refl p
  · rw [he]
    exact ⟨rfl, rfl, rfl, rfl, rfl, Nat.le_refl _⟩

/-- The workers that a call reports to have started. -/
def startsOf (p : Pool) : Op → List Start
  | .execute r choice => startsIn (p.execute r choice).events
  | .prestart count => startsIn (p.prestart count).events
  | .setCoreSize size => startsIn (p.setCoreSize size).events
  | .shutdown => startsIn p.shutdown.events
  | _ => []

/-- A call starts `n` workers, and the core size has room for each of them. -/
structure Recruiting (p : Pool) (op : Op) (n : Nat) (p' : Pool) : Prop where
  rise : Rise p n p'
  starts : p.startsOf op =
    (List.range n).map fun k => ⟨p.nextIndex + k, p.live + k + 1, p'.coreSize⟩
  room : 0 < n → p'.live ≤ p'.coreSize

theorem Recruiting.idle (h : Rise p 0 p') (hstarts : p.startsOf op = []) :
    Recruiting p op 0 p' := ⟨h, hstarts, nofun⟩

theorem Recruits.recruiting {β : Type} {e : Effect β} {q : Pool} {limit : Nat}
    (h : Recruits q limit n e) (hq : Rise p 0 q)
    (hlimit : limit ≤ q.coreSize - q.live) (hstarts : p.startsOf op = startsIn e.events) :
    Recruiting p op n e.pool := by
  have hrise := h.grew.rise
  have hlive : q.live = p.live := hq.live
  have hindex : q.nextIndex = p.nextIndex := hq.nextIndex
  have hlargest : q.largest = p.largest := hq.largest
  have hgauge : q.threadsGauge = p.threadsGauge := hq.gauge
  refine ⟨⟨?_, ?_, ?_, ?_, ?_, Nat.le_trans hq.signals hrise.signals⟩, ?_, ?_⟩
  · rw [hrise.live, hlive]
  · rw [hrise.nextIndex, hindex]
  · rw [hrise.completed, hq.completed]
  · rw [hrise.largest, hlargest]
  · rw [hrise.gauge, hgauge]
  · rw [hstarts, h.reported, hindex, hlive, h.grew.coreSize]
  · intro hn
    have hle := h.le
    rw [h.grew.live, h.grew.coreSize]
    omega

theorem execute_recruiting (p : Pool) (r : Ref) (choice : Nat) :
    ∃ n, Recruiting p (.execute r choice) n (p.execute r choice).pool := by
  have hpush : Rise p 0 { p with queue := p.queue ++ [r] } :=
    ⟨rfl, rfl, rfl, rfl, rfl, Nat.le_refl _⟩
  have hpushed : ∀ {q : Pool} {n : Nat}, Rise { p with queue := p.queue ++ [r] } n q →
      Rise p n q := fun h =>
      ⟨h.live, h.nextIndex, h.completed, h.largest, h.gauge, h.signals⟩
  have hres := execute_result p r choice
  have hstarts : p.startsOf (.execute r choice) = startsIn (p.execute r choice).events := rfl
  generalize p.execute r choice = e at hres hstarts
  cases hres with
  | closed => exact ⟨0, .idle (.refl p) hstarts⟩
  | woke choice => exact ⟨0, .idle (hpushed (notifyOne_rise _ choice)) hstarts⟩
  | grew events _ _ hg hroom _ _ hevents =>
    refine ⟨1, hpushed hg.rise, ?_, fun _ => ?_⟩
    · rw [hstarts, hevents, hg.coreSize]
      rfl
    · rw [hg.live, hg.coreSize]
      exact hroom
  | refused reason _ hm => exact ⟨0, .idle hm.grew.rise hstarts⟩
  | notGrown events _ _ hm _ _ hevents =>
    exact ⟨0, .idle (hpushed hm.grew.rise) (hstarts.trans hevents)⟩
  | unwound failure _ _ hm => exact ⟨0, .idle (hpushed hm.grew.rise) hstarts⟩
  | full => exact ⟨0, .idle hpush hstarts⟩

theorem prestart_recruiting (p : Pool) (count : Nat) :
    ∃ n, Recruiting p (.prestart count) n (p.prestart count).pool := by
  have hstarts : p.startsOf (.prestart count) = startsIn (p.prestart count).events := rfl
  unfold prestart at hstarts ⊢
  split at hstarts
  next hclosing =>
    rw [if_pos hclosing]
    exact ⟨0, .idle (.refl p) hstarts⟩
  next hopen =>
    rw [if_neg hopen]
    obtain ⟨n, hn, -⟩ := prestartFrom_result count p 0 count
    exact ⟨n, hn.recruiting (.refl p) (Nat.min_le_right ..) hstarts⟩

theorem setCoreSize_recruiting (p : Pool) (size : Nat) :
    ∃ n, Recruiting p (.setCoreSize size) n (p.setCoreSize size).pool := by
  have hresized : Rise p 0 { p with coreSize := max size 1 } :=
    ⟨rfl, rfl, rfl, rfl, rfl, Nat.le_refl _⟩
  have hstarts : p.startsOf (.setCoreSize size) = startsIn (p.setCoreSize size).events := rfl
  unfold setCoreSize at hstarts ⊢
  split at hstarts
  next hclosing =>
    rw [if_pos hclosing]
    exact ⟨0, .idle hresized hstarts⟩
  next hopen =>
    rw [if_neg hopen]
    obtain ⟨n, hn, -⟩ := growForQueue_result p.coreSize { p with coreSize := max size 1 }
      (min (p.queue.length - p.idle) (max size 1 - p.live))
    exact ⟨n, hn.recruiting hresized (Nat.min_le_right ..) hstarts⟩

/-- Closing the pool starts one worker at most, and none besides another. -/
theorem shutdown_recruiting (p : Pool) (hcore : 1 ≤ p.coreSize) :
    ∃ n, Recruiting p .shutdown n p.shutdown.pool := by
  have hclosed : ∀ {q : Pool} {n : Nat}, Rise { p with closing := true }.notifyAll n q →
      Rise p n q := fun h =>
      ⟨h.live, h.nextIndex, h.completed, h.largest, h.gauge, h.signals⟩
  have hstarts : p.startsOf .shutdown = startsIn p.shutdown.events := rfl
  have hres := shutdown_result p
  generalize p.shutdown = e at hres hstarts
  cases hres with
  | left => exact ⟨0, .idle (hclosed (.refl _)) hstarts⟩
  | drained => exact ⟨0, .idle ⟨rfl, rfl, rfl, rfl, rfl, Nat.le_succ _⟩ hstarts⟩
  | grew events hlive hg _ hevents =>
    refine ⟨1, hclosed hg.rise, ?_, fun _ => ?_⟩
    · rw [hstarts, hevents, hg.coreSize]
      rfl
    · rw [hg.live, hg.coreSize]
      show p.live + 1 ≤ p.coreSize
      omega
  | stranded reason _ hm =>
    have hmissed := hclosed hm.grew.rise
    exact ⟨0, .idle ⟨hmissed.live, hmissed.nextIndex, hmissed.completed, hmissed.largest,
      hmissed.gauge, Nat.le_succ_of_le hmissed.signals⟩ hstarts⟩
  | unwound failure _ hm => exact ⟨0, .idle (hclosed hm.grew.rise) hstarts⟩

/-- A call starts some workers, and changes no counter but for them. -/
theorem act_recruiting (hcore : 1 ≤ p.coreSize) (hop : op.isCall = true)
    (h : p.act op = some p') : ∃ n, Recruiting p op n p' := by
  cases op with
  | execute r choice =>
    cases h
    exact execute_recruiting p r choice
  | prestart count =>
    cases h
    exact prestart_recruiting p count
  | setCoreSize size =>
    cases h
    exact setCoreSize_recruiting p size
  | withdraw r =>
    cases h
    refine ⟨0, .idle ?_ rfl⟩
    unfold Pool.withdraw
    split <;> exact ⟨rfl, rfl, rfl, rfl, rfl, Nat.le_refl _⟩
  | setFactory factory =>
    cases h
    exact ⟨0, .idle ⟨rfl, rfl, rfl, rfl, rfl, Nat.le_refl _⟩ rfl⟩
  | shutdown =>
    cases h
    exact shutdown_recruiting p hcore
  | look i => cases hop
  | expire i => cases hop
  | proceed i phase => cases hop
  | countRun i => cases hop

/-! ## Sections of workers -/

/-- What a section of a worker does to the counters: it may take one worker away. -/
structure Fall (p p' : Pool) : Prop where
  live : p'.live ≤ p.live
  nextIndex : p'.nextIndex = p.nextIndex
  coreSize : p'.coreSize = p.coreSize
  largest : p'.largest = p.largest
  gauge : p'.threadsGauge = some p'.live ∨ p'.threadsGauge = p.threadsGauge ∧ p'.live = p.live
  signals : p.drainSignals ≤ p'.drainSignals
  last : 0 < p.live → p'.live = 0 → p.drainSignals < p'.drainSignals

theorem look_fall {i : Nat} (h : p.look i = some p') : Fall p p' := by
  obtain ⟨phase, -, -, hres⟩ := look_result h
  have hlive := back_live p phase
  have hindex := back_nextIndex p phase
  have hcore := back_coreSize p phase
  have hlargest := back_largest p phase
  have hgauge := back_threadsGauge p phase
  have hsignals := back_drainSignals p phase
  have hstays : ∀ {q : Pool}, q.live = (p.back phase).live → 0 < p.live → q.live = 0 →
      p.drainSignals < q.drainSignals := by
    intro q hq hpos hzero
    omega
  cases hres with
  | picked =>
    exact ⟨Nat.le_of_eq hlive, hindex, hcore, hlargest, .inr ⟨hgauge, hlive⟩,
      Nat.le_of_eq hsignals.symm, hstays rfl⟩
  | parked =>
    exact ⟨Nat.le_of_eq hlive, hindex, hcore, hlargest, .inr ⟨hgauge, hlive⟩,
      Nat.le_of_eq hsignals.symm, hstays rfl⟩
  | left =>
    have hafter : ((p.back phase).leave i).drainSignals =
        if (p.back phase).live - 1 = 0 then p.drainSignals + 1 else p.drainSignals := by
      rw [← hsignals]
      rfl
    refine ⟨hlive ▸ Nat.sub_le .., hindex, hcore, hlargest, .inl rfl, ?_, fun _ hlast => ?_⟩
    · rw [hafter]
      split <;> omega
    · have hgone : (p.back phase).live - 1 = 0 := hlast
      rw [hafter, if_pos hgone]
      exact Nat.lt_succ_self _

theorem act_fall (hop : op.isCall = false) (h : p.act op = some p') : Fall p p' := by
  have hkept : ∀ {q : Pool}, q.live = p.live → q.nextIndex = p.nextIndex →
      q.coreSize = p.coreSize → q.largest = p.largest → q.threadsGauge = p.threadsGauge →
      q.drainSignals = p.drainSignals → Fall p q := by
    intro q hlive hindex hcore hlargest hgauge hsignals
    exact ⟨Nat.le_of_eq hlive, hindex, hcore, hlargest, .inr ⟨hgauge, hlive⟩,
      Nat.le_of_eq hsignals.symm, by omega⟩
  cases op with
  | look i => exact look_fall h
  | expire i =>
    obtain ⟨-, rfl⟩ := expire_eq_some h
    exact hkept rfl rfl rfl rfl rfl rfl
  | proceed i phase =>
    obtain ⟨old, -, -, -, rfl⟩ := proceed_eq_some h
    exact hkept rfl rfl rfl rfl rfl rfl
  | countRun i =>
    obtain ⟨r, -, rfl⟩ := countRun_eq_some h
    exact hkept rfl rfl rfl rfl rfl rfl
  | _ => cases hop

/-! ## Steps -/

/-- What an operation does to the counters that tell of the past. -/
structure Counts (p : Pool) (op : Op) (p' : Pool) : Prop where
  largest : p.live ≤ p.largest → p'.largest = max p.largest p'.live
  gauge : p'.threadsGauge = some p'.live ∨ p'.threadsGauge = p.threadsGauge ∧ p'.live = p.live
  indexes : List.range p'.nextIndex =
    List.range p.nextIndex ++ (p.startsOf op).map (·.index)
  room : ∀ start ∈ p.startsOf op, start.live ≤ start.coreSize
  bound : p'.live ≤ max p.live p'.coreSize
  signals : p.drainSignals ≤ p'.drainSignals
  /-- The last worker to leave wakes those who wait for the pool to drain. -/
  last : 0 < p.live → p'.live = 0 → p.drainSignals < p'.drainSignals

theorem Recruiting.counts (h : Recruiting p op n p') : Counts p op p' := by
  have hlive := h.rise.live
  have hlargest := h.rise.largest
  have hgauge := h.rise.gauge
  have hroom := h.room
  refine ⟨fun hle => ?_, ?_, ?_, fun start hstart => ?_, ?_, h.rise.signals, ?_⟩
  · split at hlargest <;> omega
  · split at hgauge
    next hn => exact .inr ⟨hgauge, by omega⟩
    next => exact .inl hgauge
  · rw [h.rise.nextIndex, List.range_add, h.starts, List.map_map]
    rfl
  · rw [h.starts, List.mem_map] at hstart
    obtain ⟨k, hk, rfl⟩ := hstart
    have := List.mem_range.mp hk
    show p.live + k + 1 ≤ p'.coreSize
    omega
  · omega
  · omega

theorem Fall.counts (h : Fall p p') (hstarts : p.startsOf op = []) : Counts p op p' where
  largest := by
    intro hle
    have := h.live
    rw [h.largest]
    omega
  gauge := h.gauge
  indexes := by rw [h.nextIndex, hstarts, List.map_nil, List.append_nil]
  room := by
    rw [hstarts]
    nofun
  bound := Nat.le_trans h.live (Nat.le_max_left ..)
  signals := h.signals
  last := h.last

theorem act_counts (hcore : 1 ≤ p.coreSize) (h : p.act op = some p') : Counts p op p' := by
  cases hop : op.isCall with
  | true =>
    obtain ⟨n, hn⟩ := act_recruiting hcore hop h
    exact hn.counts
  | false => exact (act_fall hop h).counts (by cases op <;> first | rfl | cases hop)

/-- No operation makes room for less than one worker. -/
theorem act_coreSize (hcore : 1 ≤ p.coreSize) (h : p.act op = some p') : 1 ≤ p'.coreSize := by
  cases op with
  | setCoreSize size =>
    cases h
    obtain ⟨n, hg⟩ := setCoreSize_grew p size
    show 1 ≤ (p.setCoreSize size).pool.coreSize
    rw [hg.coreSize]
    exact Nat.le_max_right ..
  | _ =>
    rw [(act_setup _ h).coreSize nofun]
    exact hcore

theorem Reachable.coreSize {failed : Nat} (h : Reachable p failed) : 1 ≤ p.coreSize := by
  induction h with
  | initial config => exact Nat.le_max_right ..
  | act op _ hact ih => exact act_coreSize ih hact

/-! ## Workers that come back -/

theorem Coherent.active_add_idle_le (h : Coherent p) : p.active + p.idle ≤ p.live := by
  have hlive : p.tally (·.isLive) =
      p.tally (fun phase => phase.isBusy || phase.isIdle) + p.tally (·.isStarting) :=
    tally_eq_add (fun phase => by cases phase <;> rfl) p
  have hcounted : p.tally (fun phase => phase.isBusy || phase.isIdle) =
      p.tally (·.isBusy) + p.tally (·.isIdle) :=
    tally_eq_add (fun phase => by cases phase <;> rfl) p
  rw [h.active, h.idle, h.live]
  omega

theorem Coherent.nextIndex_eq (h : Coherent p) : p.nextIndex = p.live + p.tally (·.isExited) := by
  have hall : p.tally (fun _ => true) = p.tally (·.isLive) + p.tally (·.isExited) :=
    tally_eq_add (fun phase => by cases phase <;> rfl) p
  rw [h.nextIndex, h.live, ← hall, tally, List.countP_true]

/-- The keep-alive time of a worker is over, there is nothing to do, and the pool is above its core
size. -/
def retires (p : Pool) (i : Nat) : Bool :=
  p.phase? i == some (.woken true) && p.queue.isEmpty && decide (p.coreSize < p.live)

/-- A worker comes back to the run queue: the counters that it is taken out of are positive, and if
it leaves, the pool is closing or has more workers than it is to have. -/
structure ComesBack (p : Pool) (i : Nat) (phase : WorkerPhase) (p' : Pool) : Prop where
  live : 0 < p.live
  active : phase = .counted → 0 < p.active
  idle : ∀ timedOut, phase = .woken timedOut → 0 < p.idle
  leaves : p'.phase? i = some .exited →
    p'.live + 1 = p.live ∧ (p.closing = true ∨ p.retires i = true)
  retires : p.retires i = true → p'.phase? i = some .exited ∧ p'.coreSize ≤ p'.live

theorem Coherent.comesBack {i : Nat} {phase : WorkerPhase} (h : Coherent p)
    (hi : p.phase? i = some phase) (hl : p.look i = some p') : ComesBack p i phase p' := by
  obtain ⟨old, hold, hback, hres⟩ := look_result hl
  obtain rfl : old = phase := Option.some.inj (hold.symm.trans hi)
  have hpos : 0 < p.live := h.live ▸ tally_pos hi (isLive_of_comesBack hback)
  have hafter : ∀ {q : Pool} (new : WorkerPhase), q.workers = (p.back old).workers →
      (q.setPhase i new).phase? i = some new := by
    intro q new hq
    exact phase?_setPhase_self ((phase?_congr (hq.trans (back_workers p old)) i).trans hi) new
  refine ⟨hpos, ?_, ?_, fun hexited => ?_, fun hretires => ?_⟩
  · rintro rfl
    exact h.active ▸ tally_pos hi rfl
  · rintro timedOut rfl
    exact h.idle ▸ tally_pos hi rfl
  · cases hres with
    | picked => cases (hafter (.picked _) rfl).symm.trans hexited
    | parked => cases (hafter .parked rfl).symm.trans hexited
    | left hnil hleaves =>
      refine ⟨?_, hleaves.imp_right fun ⟨hwoken, hsurplus⟩ => ?_⟩
      · show (p.back old).live - 1 + 1 = p.live
        rw [back_live]
        exact Nat.sub_add_cancel hpos
      · rw [Pool.retires, hi, hwoken, hnil]
        simpa using hsurplus
  · simp only [Pool.retires, Bool.and_eq_true, beq_iff_eq, List.isEmpty_iff,
      decide_eq_true_eq] at hretires
    obtain ⟨⟨hwoken, hnil⟩, hsurplus⟩ := hretires
    cases hres with
    | picked hq => cases hnil.symm.trans hq
    | parked _ _ hstays =>
      have := hstays (Option.some.inj (hi.symm.trans hwoken))
      omega
    | left =>
      refine ⟨hafter .exited rfl, ?_⟩
      show (p.back old).coreSize ≤ (p.back old).live - 1
      rw [back_live, back_coreSize]
      omega

/-! ## Runs -/

/-- The workers that a run reports to have started. -/
def starts (p : Pool) (ops : List Op) : List Start := notes act (fun q op _ => q.startsOf op) p ops

/-- How many workers were live after each operation of a run. -/
def lives (p : Pool) (ops : List Op) : List Nat := notes act (fun _ _ q => [q.live]) p ops

/-- The core size at the start of a run and after each of its operations. -/
def coreSizes (p : Pool) (ops : List Op) : List Nat :=
  p.coreSize :: notes act (fun _ _ q => [q.coreSize]) p ops

/-- What a run tells of the counters of the pool that it ends in. -/
structure Tracked (start : Pool) (ops : List Op) (p : Pool) : Prop where
  coherent : Coherent p
  coreSize : 1 ≤ p.coreSize
  live : p.live ≤ p.largest
  largest : p.largest = (lives start ops).foldl max 0
  bound : p.largest ≤ (coreSizes start ops).foldl max 0
  room : ∀ started ∈ starts start ops, started.live ≤ started.coreSize
  indexes : (starts start ops).map (·.index) = List.range p.nextIndex
  gauge : ∀ published, p.threadsGauge = some published → published = p.live

theorem Tracked.initial (host : Host) (config : PoolConfig) :
    Tracked (ofConfig host config) [] (ofConfig host config) where
  coherent := ⟨rfl, rfl, rfl, rfl⟩
  coreSize := Nat.le_max_right ..
  live := Nat.le_refl _
  largest := rfl
  bound := Nat.zero_le _
  room := nofun
  indexes := rfl
  gauge := nofun

theorem Tracked.act {start : Pool} {ops : List Op} (h : Tracked start ops p)
    (hrun : ops.foldlM act start = some p) (hact : p.act op = some p') :
    Tracked start (ops ++ [op]) p' := by
  have hcounts := act_counts h.coreSize hact
  have hlargest := hcounts.largest h.live
  have hlives : lives start (ops ++ [op]) = lives start ops ++ [p'.live] := notes_concat hrun hact _
  have hcores : coreSizes start (ops ++ [op]) = coreSizes start ops ++ [p'.coreSize] := by
    rw [coreSizes, notes_concat hrun hact]
    rfl
  have hstarts : starts start (ops ++ [op]) = starts start ops ++ p.startsOf op :=
    notes_concat hrun hact _
  refine ⟨h.coherent.act hact, act_coreSize h.coreSize hact, ?_, ?_, ?_, ?_, ?_, ?_⟩
  · rw [hlargest]
    exact Nat.le_max_right ..
  · rw [hlives, List.foldl_append, ← h.largest, hlargest]
    rfl
  · have hbound := h.bound
    have hlive := h.live
    have hroom := hcounts.bound
    rw [hcores, List.foldl_append, hlargest]
    show _ ≤ max _ p'.coreSize
    omega
  · intro started hstarted
    rw [hstarts, List.mem_append] at hstarted
    exact hstarted.elim (h.room started) (hcounts.room started)
  · rw [hstarts, List.map_append, h.indexes, hcounts.indexes]
  · intro published hpublished
    rcases hcounts.gauge with hnew | ⟨hsame, hlive⟩
    · exact Option.some.inj (hpublished.symm.trans hnew)
    · rw [hlive]
      exact h.gauge published (hsame.symm.trans hpublished)

/-- In every state of every run, whatever the factory does: the counters agree with each other and
with the past of the pool, no worker is started beyond the core size, each gets the next index, and
a worker is only taken out of a counter that it is in. Whoever leaves because the keep-alive time is
over leaves as many workers behind as the pool is to have. -/
theorem counters_hold (host : Host) (config : PoolConfig) {ops : List Op}
    (hrun : ops.foldlM Pool.act (ofConfig host config) = some p) :
    1 ≤ p.coreSize ∧ p.active + p.idle ≤ p.live ∧ p.live ≤ p.largest ∧
      p.largest = (lives (ofConfig host config) ops).foldl max 0 ∧
      p.largest ≤ (coreSizes (ofConfig host config) ops).foldl max 0 ∧
      (∀ started ∈ starts (ofConfig host config) ops, started.live ≤ started.coreSize) ∧
      (starts (ofConfig host config) ops).map (·.index) = List.range p.nextIndex ∧
      p.nextIndex = p.live + p.tally (·.isExited) ∧
      (∀ published, p.threadsGauge = some published → published = p.live) ∧
      ∀ i phase p', p.phase? i = some phase → p.look i = some p' → ComesBack p i phase p' := by
  have h : Tracked (ofConfig host config) ops p :=
    run_induction (.initial host config) (fun hbefore h hact => h.act hbefore hact) hrun
  exact ⟨h.coreSize, h.coherent.active_add_idle_le, h.live, h.largest, h.bound, h.room, h.indexes,
    h.coherent.nextIndex_eq, h.gauge, fun i phase p' hi hl => h.coherent.comesBack hi hl⟩

/-- Three records, and two workers at most that can be started. The pool shrinks to one worker, and
the other one leaves when its keep-alive time is over. -/
def shrinkingPool : List Op :=
  [.setFactory
      { start := fun attempt _ => if attempt < 2 then .started "worker" else .refused "no" },
    .setCoreSize 3, .execute 7 0, .execute 8 0, .execute 9 0, .look 0, .look 1, .proceed 0 (.ran 7),
    .countRun 0, .look 0, .proceed 1 (.ran 8), .countRun 1, .look 1, .setCoreSize 1, .expire 1]

/-- The worker with index 1 is about to leave a pool of two. -/
theorem surplus_worker_leaves :
    ∃ p p', shrinkingPool.foldlM act (ofConfig .lenient (.sized 1 1)) = some p ∧ p.largest = 2 ∧
      p.tally (·.isExited) = 0 ∧ p.look 1 = some p' ∧ p'.phase? 1 = some .exited ∧
      p'.coreSize ≤ p'.live := by
  have hrun : shrinkingPool.foldlM Pool.act (ofConfig .lenient (.sized 1 1)) = some _ := rfl
  obtain ⟨-, -, -, -, -, -, -, -, -, hlook⟩ := counters_hold .lenient (.sized 1 1) hrun
  exact ⟨_, _, rfl, rfl, rfl, rfl, (hlook 1 (.woken true) _ rfl rfl).retires rfl⟩

end Pool

end TaskScheduler
