import TaskScheduler.Proofs.Pool.Run

/-
  Where the pool holds records: in the run queue and in the hands of workers.

  `holds p r` counts both. A worker that picks a record up moves it from one to the other
  (`look_holds`), handing a record over adds one (`execute_holds`), and closing the pool loses only
  records that it names as stranded (`shutdown_holds`).
-/
namespace TaskScheduler

/-- The record in a worker's hand. A worker has let go of it once the run is over and it has been
put back, given up or finished. -/
def WorkerPhase.hand? : WorkerPhase → Option Ref
  | picked r | begun r | running r | requeueing r | refused r => some r
  | _ => none

namespace Pool

variable {p p' : Pool} {n : Nat} {r : Ref}

/-- The number of workers that have a record in hand. -/
def hands (p : Pool) (r : Ref) : Nat := p.tally fun phase => phase.hand? == some r

/-- The number of entries and hands that hold a record. -/
def holds (p : Pool) (r : Ref) : Nat := p.queue.count r + p.hands r

theorem holds_calm (h : Calm p p') (r : Ref) : p'.holds r = p'.queue.count r + p.hands r := by
  rw [holds, hands, h _ rfl rfl rfl]
  rfl

theorem holds_of_queue (h : Calm p p') (hq : p'.queue = p.queue) (r : Ref) :
    p'.holds r = p.holds r := by
  rw [holds_calm h, hq, holds]

theorem holds_setPhase {i : Nat} {old : WorkerPhase} (h : p.phase? i = some old)
    (new : WorkerPhase) (r : Ref) :
    (p.setPhase i new).holds r + (old.hand? == some r).toNat =
      p.holds r + (new.hand? == some r).toNat := by
  have htally := tally_setPhase h new fun phase => phase.hand? == some r
  show p.queue.count r + (p.setPhase i new).tally _ + _ = p.queue.count r + p.tally _ + _
  omega

/-- A record that the pool takes is put at the end of the run queue, and stays there if a panic of
the factory goes through the operation. A closing pool takes none. -/
theorem execute_queue (p : Pool) (r : Ref) (choice : Nat) :
    match (p.execute r choice).answer with
    | .ok _ => p.closing = false ∧ (p.execute r choice).pool.queue = p.queue ++ [r]
    | .error _ => (p.execute r choice).pool.queue = p.queue
    | .unwound failure =>
      p.closing = false ∧ (p.execute r choice).pool.queue = p.queue ++ [r] ∧
        p.factory.next p.nextIndex = .unwound failure := by
  have hres := execute_result p r choice
  generalize p.execute r choice = e at hres
  cases hres with
  | closed => rfl
  | woke choice hopen _ =>
    refine ⟨hopen, ?_⟩
    rcases notifyOne_cases { p with queue := p.queue ++ [r] } choice with ⟨-, he⟩ | ⟨i, -, he⟩
    · rw [he]
    · rw [he]
      rfl
  | grew events hopen _ hg => exact ⟨hopen, hg.queue⟩
  | refused reason _ hm => exact hm.grew.queue
  | notGrown events hopen _ hm => exact ⟨hopen, hm.grew.queue⟩
  | unwound failure hopen _ hm hnext => exact ⟨hopen, hm.grew.queue, hnext⟩
  | full hopen _ _ => exact ⟨hopen, rfl⟩

/-- A record that the pool takes is in one more place, one that it refuses in none. -/
theorem execute_holds (p : Pool) (r : Ref) (choice : Nat) (r' : Ref) :
    match (p.execute r choice).answer with
    | .ok _ => (p.execute r choice).pool.holds r' = p.holds r' + (r == r').toNat
    | .error _ => (p.execute r choice).pool.holds r' = p.holds r'
    | .unwound failure =>
      (p.execute r choice).pool.holds r' = p.holds r' + (r == r').toNat ∧
        p.factory.next p.nextIndex = .unwound failure := by
  have hcalm := execute_calm p r choice
  have hqueue := execute_queue p r choice
  have hpushed : (p.execute r choice).pool.queue = p.queue ++ [r] →
      (p.execute r choice).pool.holds r' = p.holds r' + (r == r').toNat := by
    intro hqueue
    rw [holds_calm hcalm, hqueue, count_concat_add, holds]
    omega
  cases hanswer : (p.execute r choice).answer with
  | ok value =>
    rw [hanswer] at hqueue
    exact hpushed hqueue.2
  | error error =>
    rw [hanswer] at hqueue
    exact holds_of_queue hcalm hqueue r'
  | unwound failure =>
    rw [hanswer] at hqueue
    exact ⟨hpushed hqueue.2.1, hqueue.2.2⟩

theorem execute_holds_other {r' : Ref} (h : r ≠ r') (choice : Nat) :
    (p.execute r choice).pool.holds r' = p.holds r' := by
  have hholds := execute_holds p r choice r'
  rw [beq_false_of_ne h, Bool.toNat_false, Nat.add_zero] at hholds
  cases hanswer : (p.execute r choice).answer with
  | unwound failure =>
    rw [hanswer] at hholds
    exact hholds.1
  | _ =>
    rw [hanswer] at hholds
    exact hholds

theorem withdraw_holds (p : Pool) (r r' : Ref) :
    (p.withdraw r).1.holds r' ≤ p.holds r' ∧ (r ≠ r' → (p.withdraw r).1.holds r' = p.holds r') := by
  unfold withdraw
  split
  · refine ⟨Nat.add_le_add_right (List.erase_sublist.count_le r') _, fun hne => ?_⟩
    show (p.queue.erase r).count r' + _ = _
    rw [List.count_erase_of_ne (Ne.symm hne)]
    rfl
  · exact ⟨Nat.le_refl _, fun _ => rfl⟩

/-- Closing the pool takes away only the records that it names as stranded. -/
theorem shutdown_holds (p : Pool) (r : Ref) :
    p.shutdown.pool.holds r ≤ p.holds r ∧
      (p.shutdown.pool.holds r = p.holds r ∨
        ∃ error stranded, p.shutdown.answer = .ok (some (error, stranded)) ∧
          (0 < p.holds r → 0 < p.shutdown.pool.holds r ∨ r ∈ stranded)) := by
  have hcalm := shutdown_calm p
  have hres := shutdown_result p
  generalize p.shutdown = e at hres hcalm
  have hsame : e.pool.queue = p.queue → e.pool.holds r = p.holds r :=
    fun hq => holds_of_queue hcalm hq r
  cases hres with
  | left => exact ⟨Nat.le_of_eq (hsame rfl), .inl (hsame rfl)⟩
  | drained => exact ⟨Nat.le_of_eq (hsame rfl), .inl (hsame rfl)⟩
  | grew events _ hg => exact ⟨Nat.le_of_eq (hsame hg.queue), .inl (hsame hg.queue)⟩
  | stranded reason _ hm =>
    have hhands := holds_calm hcalm r
    change _ = ([] : List Ref).count r + p.hands r at hhands
    rw [List.count_nil, Nat.zero_add] at hhands
    refine ⟨?_, .inr ⟨_, _, rfl, fun hpos => ?_⟩⟩
    · rw [hhands]
      exact Nat.le_add_left ..
    · rcases Nat.eq_zero_or_pos (p.queue.count r) with hzero | hcount
      · left
        rw [hhands]
        rw [holds, hzero, Nat.zero_add] at hpos
        exact hpos
      · exact .inr (List.count_pos_iff.mp hcount)
  | unwound failure _ hm => exact ⟨Nat.le_of_eq (hsame hm.grew.queue), .inl (hsame hm.grew.queue)⟩

/-- A worker that picks a record up moves it from the run queue to its hand. -/
theorem look_holds {i : Nat} (h : p.look i = some p') (r : Ref) : p'.holds r = p.holds r := by
  obtain ⟨old, new, hback, htally, hnew⟩ := look_tally h
  have hold : old.hand? = none := by cases old <;> first | rfl | cases hback
  have hbalance := htally fun phase => phase.hand? == some r
  rw [hold] at hbalance
  unfold holds hands
  rcases hnew with ⟨hqueue, rfl | rfl⟩ | ⟨r', hqueue, rfl⟩
  · rw [hqueue, Nat.add_right_cancel hbalance]
  · rw [hqueue, Nat.add_right_cancel hbalance]
  · have hpicked : p'.tally (fun phase => phase.hand? == some r) =
        p.tally (fun phase => phase.hand? == some r) + (r' == r).toNat := hbalance
    rw [hpicked, hqueue, count_cons_add]
    omega

/-- A worker at the run queue takes the first record, or it leaves the run queue as it is. -/
theorem look_queue {i : Nat} (h : p.look i = some p') :
    (p'.queue = p.queue ∧ ∀ r, p'.phase? i ≠ some (.picked r)) ∨
      ∃ r, p.queue = r :: p'.queue ∧ p'.phase? i = some (.picked r) ∧
        p.phase? i ≠ some (.picked r) := by
  obtain ⟨old, hi, hback, hres⟩ := look_result h
  have hqueue : (p.back old).queue = p.queue := by cases old <;> rfl
  have hworkers : (p.back old).workers = p.workers := by cases old <;> rfl
  have hafter : ∀ {q : Pool} (new : WorkerPhase), q.workers = (p.back old).workers →
      (q.setPhase i new).phase? i = some new := by
    intro q new hq
    exact phase?_setPhase_self ((phase?_congr (hq.trans hworkers) i).trans hi) new
  cases hres with
  | @picked r rest hq =>
    refine .inr ⟨r, hq, hafter (.picked r) rfl, ?_⟩
    rw [hi]
    rintro heq
    cases heq
    cases hback
  | parked =>
    refine .inl ⟨hqueue, fun r hpicked => ?_⟩
    cases (hafter .parked (by rfl)).symm.trans hpicked
  | left =>
    refine .inl ⟨hqueue, fun r hpicked => ?_⟩
    cases (hafter .exited (by rfl)).symm.trans hpicked

theorem expire_holds {i : Nat} (h : p.expire i = some p') (r : Ref) : p'.holds r = p.holds r := by
  obtain ⟨hqueue, htally⟩ := expire_tally h
  rw [holds, holds, hqueue, hands, hands, htally _ rfl rfl]

theorem countRun_holds {i : Nat} (h : p.countRun i = some p') (r : Ref) :
    p'.holds r = p.holds r := by
  obtain ⟨hqueue, htally⟩ := countRun_tally h
  rw [holds, holds, hqueue, hands, hands, htally _ (fun _ => rfl) rfl]

theorem prestart_holds (p : Pool) (count : Nat) (r : Ref) :
    (p.prestart count).pool.holds r = p.holds r := by
  obtain ⟨n, hg⟩ := prestart_grew p count
  exact holds_of_queue hg.calm hg.queue r

theorem setCoreSize_holds (p : Pool) (size : Nat) (r : Ref) :
    (p.setCoreSize size).pool.holds r = p.holds r := by
  obtain ⟨n, hg⟩ := setCoreSize_grew p size
  exact holds_of_queue hg.calm hg.queue r

end Pool

end TaskScheduler
