import TaskScheduler.Pool.Await
import TaskScheduler.Proofs.Pool.Counters

/-
  Pools that are winding down.

  `WindsDown`: the pool is closing, and records wait in it only while a worker is left. Closing a
  pool brings this about, unless a panic of the factory goes through the call
  (`shutdown_windsDown`), and no operation undoes it or starts a worker (`act_windsDown`). From
  there a pool can only come to be drained by its last worker leaving, and that wakes those who wait
  for it (`WindsDown.wakes`).
-/
namespace TaskScheduler.Pool

variable {p p' : Pool} {op : Op}

/-- The pool is closing, and no record waits without a worker. -/
structure WindsDown (p : Pool) : Prop where
  closing : p.closing = true
  empty : p.live = 0 → p.queue = []

theorem WindsDown.live_pos (h : WindsDown p) (hnot : p.hasDrained = false) : 0 < p.live := by
  refine Nat.pos_of_ne_zero fun hlive => ?_
  rw [hasDrained_iff.mpr ⟨h.closing, hlive, h.empty hlive⟩] at hnot
  cases hnot

/-! ## Closing a pool -/

/-- Closing a pool ends in an answer if the factory keeps its panic to itself. -/
theorem shutdown_answers (h : ∀ failure, p.outcome 0 ≠ .unwound failure) (failure : Failure) :
    p.shutdown.answer ≠ .unwound failure := by
  have hres := shutdown_result p
  generalize p.shutdown = e at hres
  cases hres with
  | unwound failure _ _ hnext => exact absurd hnext (h failure)
  | _ => nofun

theorem shutdown_windsDown (h : ∀ failure, p.shutdown.answer ≠ .unwound failure) :
    WindsDown p.shutdown.pool := by
  refine ⟨shutdown_closing p, ?_⟩
  have hres := shutdown_result p
  generalize p.shutdown = e at hres h
  intro hlive
  cases hres with
  | left hpos => exact absurd hlive (Nat.ne_of_gt hpos)
  | drained _ hqueue => exact hqueue
  | grew events _ hg =>
    rw [hg.live] at hlive
    cases hlive
  | stranded => rfl
  | unwound failure => exact absurd rfl (h failure)

/-- If closing the pool drains it, those who wait are woken. -/
theorem shutdown_wakes (h : p.shutdown.pool.hasDrained = true) :
    p.drainSignals < p.shutdown.pool.drainSignals := by
  obtain ⟨-, hlive, hqueue⟩ := hasDrained_iff.mp h
  have hres := shutdown_result p
  generalize p.shutdown = e at hres h hlive hqueue
  cases hres with
  | left hpos => exact absurd hlive (Nat.ne_of_gt hpos)
  | drained => exact Nat.lt_succ_self _
  | grew events _ hg =>
    rw [hg.live] at hlive
    cases hlive
  | stranded reason _ hm => exact Nat.lt_succ_of_le (Nat.le_of_eq hm.grew.signals.symm)
  | unwound failure _ hm _ hwaiting => exact absurd (hm.grew.queue.symm.trans hqueue) hwaiting

/-! ## Afterwards -/

theorem execute_of_closing (h : p.closing = true) (r : Ref) (choice : Nat) :
    p.execute r choice = ⟨p, .error .shutdown, []⟩ := by
  rw [execute, if_pos h]

theorem prestart_of_closing (h : p.closing = true) (count : Nat) :
    p.prestart count = ⟨p, .error .shutdown, []⟩ := by
  rw [prestart, if_pos h]

theorem setCoreSize_of_closing (h : p.closing = true) (size : Nat) :
    p.setCoreSize size = ⟨{ p with coreSize := max size 1 }, .ok p.coreSize, []⟩ := by
  rw [setCoreSize, if_pos h]

theorem look_windsDown {i : Nat} (hc : Coherent p) (h : WindsDown p) (hl : p.look i = some p') :
    WindsDown p' := by
  obtain ⟨phase, hi, hback, hres⟩ := look_result hl
  have hpos : 0 < p.live := hc.live ▸ tally_pos hi (isLive_of_comesBack hback)
  have hclosing : (p.back phase).closing = true := (back_closing p phase).trans h.closing
  cases hres with
  | picked =>
    refine ⟨hclosing, fun hzero => ?_⟩
    exact absurd ((back_live p phase).symm.trans hzero) (Nat.ne_of_gt hpos)
  | parked _ hopen => cases h.closing.symm.trans hopen
  | left hnil => exact ⟨hclosing, fun _ => (back_queue p phase).trans hnil⟩

/-- Whatever happens to a pool that is winding down, it goes on to do so, with the workers it
has. -/
theorem act_windsDown (hc : Coherent p) (h : WindsDown p) (hact : p.act op = some p') :
    WindsDown p' ∧ p'.nextIndex = p.nextIndex := by
  cases op with
  | execute r choice =>
    cases hact
    show WindsDown (p.execute r choice).pool ∧ _
    rw [execute_of_closing h.closing]
    exact ⟨h, rfl⟩
  | prestart count =>
    cases hact
    show WindsDown (p.prestart count).pool ∧ _
    rw [prestart_of_closing h.closing]
    exact ⟨h, rfl⟩
  | setCoreSize size =>
    cases hact
    show WindsDown (p.setCoreSize size).pool ∧ _
    rw [setCoreSize_of_closing h.closing]
    exact ⟨⟨h.closing, h.empty⟩, rfl⟩
  | withdraw r =>
    cases hact
    unfold Pool.withdraw
    split
    · refine ⟨⟨h.closing, fun hlive => ?_⟩, rfl⟩
      show p.queue.erase r = []
      rw [h.empty hlive]
      rfl
    · exact ⟨h, rfl⟩
  | setFactory factory =>
    cases hact
    exact ⟨⟨h.closing, h.empty⟩, rfl⟩
  | shutdown =>
    cases hact
    show WindsDown p.shutdown.pool ∧ p.shutdown.pool.nextIndex = p.nextIndex
    have hres := shutdown_result p
    generalize p.shutdown = e at hres
    cases hres with
    | left => exact ⟨⟨rfl, h.empty⟩, rfl⟩
    | drained _ hqueue => exact ⟨⟨rfl, fun _ => hqueue⟩, rfl⟩
    | grew events hlive _ hwaiting => exact absurd (h.empty hlive) hwaiting
    | stranded reason hlive _ _ hwaiting => exact absurd (h.empty hlive) hwaiting
    | unwound failure hlive _ _ hwaiting => exact absurd (h.empty hlive) hwaiting
  | look i => exact ⟨look_windsDown hc h hact, (look_fall hact).nextIndex⟩
  | expire i =>
    obtain ⟨-, rfl⟩ := expire_eq_some hact
    exact ⟨⟨h.closing, h.empty⟩, rfl⟩
  | proceed i phase =>
    obtain ⟨old, -, -, -, rfl⟩ := proceed_eq_some hact
    exact ⟨⟨h.closing, h.empty⟩, rfl⟩
  | countRun i =>
    obtain ⟨r, -, rfl⟩ := countRun_eq_some hact
    exact ⟨⟨h.closing, h.empty⟩, rfl⟩

/-- The operation that drains the pool wakes those who wait for it. -/
theorem WindsDown.wakes (h : WindsDown p) (hcore : 1 ≤ p.coreSize) (hnot : p.hasDrained = false)
    (hact : p.act op = some p') (hdrained : p'.hasDrained = true) :
    p.drainSignals < p'.drainSignals :=
  (act_counts hcore hact).last (h.live_pos hnot) (hasDrained_iff.mp hdrained).2.1

end TaskScheduler.Pool
