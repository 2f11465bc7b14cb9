import TaskScheduler.Proofs.Concern
import TaskScheduler.Proofs.Pool.Counters
import TaskScheduler.Proofs.Pool.WorkConservation
import TaskScheduler.Proofs.Sections.Batch

/-
  Records that belong to a batch.

  A record of a batch is for work that is to start at once, and nobody but the batch can name it: it
  is in no delay queue and not with the pump, there is no handle of it, and no other call concerns
  it. While it waits in the run queue there is a worker for it (`Pool.Manned`), so that not even the
  closing of the pool can strand it (`Manned.not_stranded`). `Sheltered` and `Reserved s i r` put
  these together, and `Reserved.step` keeps them.
-/
namespace TaskScheduler

namespace Pool

variable {p p' : Pool} {n : Nat} {r : Ref}

/-- There are workers if the record waits in the run queue. -/
def Manned (p : Pool) (r : Ref) : Prop := r ∈ p.queue → 0 < p.live

theorem Manned.of_le (h : Manned p r) (hqueue : r ∈ p'.queue → r ∈ p.queue)
    (hlive : p.live ≤ p'.live) : Manned p' r :=
  fun hr => Nat.lt_of_lt_of_le (h (hqueue hr)) hlive

theorem Manned.grew (h : Manned p r) (hg : Grew p n p') : Manned p' r :=
  h.of_le (fun hr => hg.queue ▸ hr) (hg.live ▸ Nat.le_add_right _ _)

/-- A record that has been put into the run queue has a worker, unless a panic went through. -/
theorem Manned.execute (h : Manned p r) (hc : Coherent p) (hcore : 1 ≤ p.coreSize) {r' : Ref}
    {choice : Nat}
    (hpanic : r' = r → ∀ failure, (p.execute r' choice).answer ≠ .unwound failure) :
    Manned (p.execute r' choice).pool r := by
  have hres := execute_result p r' choice
  generalize p.execute r' choice = e at hres hpanic
  cases hres with
  | closed _ => exact h
  | woke choice' _ hidle =>
    intro _
    have hle := hc.active_add_idle_le
    have hlive : ({ p with queue := p.queue ++ [r'] }.notifyOne choice').live = p.live :=
      (notifyOne_rise _ choice').live
    show 0 < ({ p with queue := p.queue ++ [r'] }.notifyOne choice').live
    omega
  | grew events _ _ hg _ _ _ _ =>
    intro _
    exact hg.live ▸ Nat.succ_pos _
  | refused reason _ hm _ _ _ _ => exact h.grew hm.grew
  | notGrown events _ _ hm _ hlive _ =>
    intro _
    exact hm.grew.live ▸ hlive
  | unwound failure _ _ hm _ =>
    refine h.of_le (fun hr => ?_) (hm.grew.live ▸ Nat.le_refl _)
    rw [hm.grew.queue] at hr
    rcases List.mem_append.mp hr with hold | hnew
    · exact hold
    · exact absurd rfl (hpanic (List.mem_singleton.mp hnew).symm failure)
  | full _ _ hfull =>
    intro _
    exact Nat.lt_of_lt_of_le hcore hfull

theorem Manned.withdraw (h : Manned p r) (r' : Ref) : Manned (p.withdraw r').1 r := by
  rcases withdraw_cases p r' with hsame | herased
  · rw [hsame]
    exact h
  · rw [herased]
    exact h.of_le List.mem_of_mem_erase (Nat.le_refl _)

theorem Manned.shutdown (h : Manned p r) : Manned p.shutdown.pool r := by
  have hres := shutdown_result p
  generalize p.shutdown = e at hres
  cases hres with
  | left _ => exact h
  | drained _ hnil => exact h
  | grew events _ hg _ _ =>
    intro _
    exact hg.live ▸ Nat.succ_pos _
  | stranded reason _ _ _ _ => exact nofun
  | unwound failure _ hm _ _ =>
    exact Manned.grew (p := { p with closing := true }.notifyAll) h hm.grew

/-- A closing pool strands no record that there are workers for. -/
theorem Manned.not_stranded (h : Manned p r) (hr : r ∈ p.queue) {error : PoolError}
    {stranded : List Ref} : p.shutdown.answer ≠ .ok (some (error, stranded)) := by
  have hlive := h hr
  have hres := shutdown_result p
  generalize p.shutdown = e at hres
  cases hres with
  | left _ => exact nofun
  | _ => omega

theorem Manned.look (h : Manned p r) {i : Nat} (hl : p.look i = some p') : Manned p' r := by
  obtain ⟨phase, -, -, hres⟩ := look_result hl
  have hnone : p.queue = [] → r ∉ (p.back phase).queue := by
    rintro hnil hr
    rw [back_queue, hnil] at hr
    cases hr
  cases hres with
  | picked hqueue =>
    refine h.of_le (fun hr => ?_) (Nat.le_of_eq (back_live p phase).symm)
    rw [hqueue]
    exact List.mem_cons_of_mem _ hr
  | parked hnil _ _ => exact fun hr => absurd hr (hnone hnil)
  | left hnil _ => exact fun hr => absurd hr (hnone hnil)

/-- A worker leaves only when no record waits. -/
theorem Manned.act_worker (h : Manned p r) {op : Op} (hop : op.isCall = false)
    (ha : p.act op = some p') : Manned p' r := by
  cases op with
  | look i => exact h.look ha
  | expire i =>
    simp only [act, expire] at ha
    split at ha <;> cases ha
    exact h
  | proceed i phase =>
    simp only [act, proceed] at ha
    split at ha
    · split at ha <;> cases ha
      exact h
    · cases ha
  | countRun i =>
    simp only [act, countRun] at ha
    split at ha <;> cases ha
    exact h
  | _ => cases hop

end Pool

namespace System

variable {α : Type} {s s' t u : System α} {a : Action α} {duty duty' : Duty} {r : Ref}
  {i choice : Nat} {stage stage' : Batch α}

/-! ## Moves -/

/-- Neither the delay queue nor the pump has the record, there is no handle of it, and there is a
worker for it if it waits in the run queue. -/
structure Sheltered (s : System α) (r : Ref) : Prop where
  unqueued : s.queue.holds r = 0
  unpumped : s.pumpHolds r = 0
  unhandled : r ∉ s.handles
  manned : s.pool.Manned r

theorem Sheltered.congr (h : Sheltered s r) (hqueue : t.queue = s.queue) (hpump : t.pump = s.pump)
    (hhandles : t.handles = s.handles) (hpool : t.pool = s.pool) : Sheltered t r where
  unqueued := hqueue ▸ h.unqueued
  unpumped := by
    rw [pumpHolds, hpump]
    exact h.unpumped
  unhandled := hhandles ▸ h.unhandled
  manned := hpool ▸ h.manned

theorem Reachable.coreSize (h : Reachable s) : 1 ≤ s.pool.coreSize := by
  obtain ⟨failed, hpool⟩ := h.pool
  exact hpool.coreSize

/-- The pump has to do with the records that it takes out of the delay queue. -/
theorem PumpMove.sheltered (h : PumpMove s t) (hs : Reachable s) (hr : Sheltered s r) :
    Sheltered t r := by
  have hother : ∀ {phase : PumpPhase} {r' : Ref}, s.pump = some phase →
      phase.record? = some r' → r' ≠ r := by
    rintro phase r' hpump hrecord rfl
    exact pump_record_ne hr.unpumped hpump hrecord
  have hfree : t.queue.entries = s.queue.entries → t.pump.bind (·.record?) = none →
      t.handles = s.handles → t.pool.Manned r → Sheltered t r := by
    intro hentries hnone hhandles hmanned
    refine ⟨?_, pumpHolds_of_none hnone r, hhandles ▸ hr.unhandled, hmanned⟩
    rw [DelayQueue.holds, hentries]
    exact hr.unqueued
  have hkept : ∀ {phase next : PumpPhase} {r' : Ref}, s.pump = some phase →
      phase.record? = some r' → t.pump = some next → next.record? = some r' →
      t.queue = s.queue → t.handles = s.handles → t.pool.Manned r → Sheltered t r := by
    intro phase next r' hpump hrecord hnext hrecord' hqueue hhandles hmanned
    refine ⟨hqueue ▸ hr.unqueued, ?_, hhandles ▸ hr.unhandled, hmanned⟩
    rw [pumpHolds_of_record hnext hrecord', beq_false_of_ne (hother hpump hrecord)]
    rfl
  have hexecute : ∀ {r' : Ref} (choice : Nat), s.pump = some (.handing r') →
      (s.pool.execute r' choice).pool.Manned r := fun choice hpump =>
    hr.manned.execute hs.pool_coherent hs.coreSize fun heq => absurd heq (hother hpump rfl)
  cases h with
  | @took k r' rest hpump hentries _ =>
    have hnone := DelayQueue.holds_eq_zero_iff.mp hr.unqueued
    have hne : r' ≠ r := by
      rintro rfl
      exact hnone k (hentries ▸ List.mem_cons_self)
    refine ⟨DelayQueue.holds_eq_zero_iff.mpr fun k' he => ?_, ?_, hr.unhandled, hr.manned⟩
    · exact hnone k' (hentries ▸ List.mem_cons_of_mem _ he)
    · rw [pumpHolds_of_record rfl rfl, beq_false_of_ne hne]
      rfl
  | idled _ _ _ => exact hfree rfl rfl rfl hr.manned
  | drained _ _ _ => exact hfree rfl rfl rfl hr.manned
  | passedOver _ _ _ _ => exact hfree rfl rfl rfl hr.manned
  | wentOn hpump hgoes =>
    obtain ⟨r', hrecord, hrecord'⟩ := hgoes.record
    exact hkept hpump hrecord rfl hrecord' rfl rfl hr.manned
  | gaveUp _ => exact hfree rfl rfl rfl hr.manned
  | handedOver choice hpump _ => exact hfree rfl rfl rfl (hexecute choice hpump)
  | refused choice hpump _ => exact hkept hpump rfl rfl rfl rfl rfl (hexecute choice hpump)
  | unwound choice hpump _ => exact hkept hpump rfl rfl rfl rfl rfl (hexecute choice hpump)
  | withdrew hpump => exact hkept hpump rfl rfl rfl rfl rfl (hr.manned.withdraw _)
  | noted hpump hafter => exact hkept hpump rfl rfl hafter.record rfl rfl hr.manned
  | rejected _ => exact hfree rfl rfl rfl hr.manned
  | postponed hpump => exact hkept hpump rfl rfl rfl rfl rfl hr.manned
  | @returned r' hpump =>
    have hentries := (s.queue.putBack_entries (s.isPending r') (s.key r') r').1
    have hholds := (holds_offered (t := { s with
      queue := s.queue.putBack (s.isPending r') (s.key r') r' }) hs.numbered hentries r).2.1
    rw [beq_false_of_ne (hother hpump rfl), hr.unqueued] at hholds
    exact ⟨Nat.le_zero.mp hholds, pumpHolds_of_none rfl r, hr.unhandled, hr.manned⟩
  | stopped _ hnext =>
    refine hfree rfl ?_ rfl hr.manned.shutdown
    rcases hnext with rfl | ⟨_, rfl⟩ <;> rfl
  | sawDrained _ _ => exact hfree rfl rfl rfl hr.manned
  | concluded _ => exact hfree rfl rfl rfl hr.manned

/-- A worker puts back only what is to run again. -/
theorem WorkerMove.sheltered (h : WorkerMove s a t) (hs : Reachable s)
    (honce : s.repeats r = false) (hr : Sheltered s r) : Sheltered t r := by
  have hmanned : t.pool.Manned r := by
    obtain ⟨op, hop, hact⟩ := h.pool_act
    exact hr.manned.act_worker hop hact
  cases h with
  | @requeued i r' queue needsPump hphase hoffer =>
    have hreturns := hs.returns_once honce
    have hne : r' ≠ r := by
      rintro rfl
      have hnot := Pool.tally_eq_zero_iff.mp hreturns i _ hphase
      rw [WorkerPhase.returns, beq_self_eq_true] at hnot
      cases hnot
    have hentries := (DelayQueue.offer_eq_some hoffer).2.2.2.2
    have hholds := (holds_offered (t := { s with queue }) hs.numbered hentries r).2.1
    rw [beq_false_of_ne hne, hr.unqueued] at hholds
    exact ⟨Nat.le_zero.mp hholds, hr.unpumped, hr.unhandled, hmanned⟩
  | launched _ _ _ => exact ⟨hr.unqueued, pumpHolds_of_none rfl r, hr.unhandled, hmanned⟩
  | @retracted i r' k reason hphase =>
    exact ⟨Nat.le_zero.mp (hr.unqueued ▸ s.queue.remove_holds_le k r), hr.unpumped, hr.unhandled,
      hmanned⟩
  | _ => exact ⟨hr.unqueued, hr.unpumped, hr.unhandled, hmanned⟩

/-- A call has to do with the record that it submits. -/
theorem CallMove.sheltered (h : CallMove s duty t duty') (hs : Reachable s)
    (hnot : duty.submits r = false) (hr : Sheltered s r) : Sheltered t r := by
  have hexecute : ∀ {r' : Ref} (choice : Nat), (r' == r) = false →
      (s.pool.execute r' choice).pool.Manned r := fun choice hne =>
    hr.manned.execute hs.pool_coherent hs.coreSize fun heq => absurd heq (ne_of_beq_false hne)
  cases h with
  | executed choice _ => exact ⟨hr.unqueued, hr.unpumped, hr.unhandled, hexecute choice hnot⟩
  | refused choice _ => exact ⟨hr.unqueued, hr.unpumped, hr.unhandled, hexecute choice hnot⟩
  | unwound choice _ => exact ⟨hr.unqueued, hr.unpumped, hr.unhandled, hexecute choice hnot⟩
  | @offered r' queue needsPump hoffer =>
    have hother : (r' == r) = false := hnot
    have hentries := (DelayQueue.offer_eq_some hoffer).2.2.2.2
    have hholds := (holds_offered (t := { s with queue }) hs.numbered hentries r).2.1
    rw [hother, hr.unqueued] at hholds
    exact ⟨Nat.le_zero.mp hholds, hr.unpumped, hr.unhandled, hr.manned⟩
  | launched _ _ => exact ⟨hr.unqueued, pumpHolds_of_none rfl r, hr.unhandled, hr.manned⟩
  | launchedLast _ _ => exact ⟨hr.unqueued, pumpHolds_of_none rfl r, hr.unhandled, hr.manned⟩
  | replacedLast _ _ => exact ⟨hr.unqueued, pumpHolds_of_none rfl r, hr.unhandled, hr.manned⟩
  | @counted r' handles hhandles =>
    refine ⟨hr.unqueued, hr.unpumped, ?_, hr.manned⟩
    rcases hhandles with rfl | rfl
    · exact hr.unhandled
    · intro hmem
      rcases List.mem_append.mp hmem with hold | hnew
      · exact hr.unhandled hold
      · exact ne_of_beq_false hnot (List.mem_singleton.mp hnew).symm
  | @removed r' k | @retracted r' k =>
    exact ⟨Nat.le_zero.mp (hr.unqueued ▸ s.queue.remove_holds_le k r), hr.unpumped, hr.unhandled,
      hr.manned⟩
  | _ => exact ⟨hr.unqueued, hr.unpumped, hr.unhandled, hr.manned⟩

theorem OwnerMove.sheltered (h : OwnerMove s t) (hr : Sheltered s r) : Sheltered t r := by
  refine ⟨?_, ?_, ?_, ?_⟩
  · cases h <;> exact hr.unqueued
  · cases h <;> exact hr.unpumped
  · cases h <;> exact hr.unhandled
  · cases h with
    | resized size =>
      obtain ⟨n, hg⟩ := s.pool.setCoreSize_grew size
      exact Pool.Manned.grew (p := { s.pool with coreSize := max size 1 }) hr.manned hg
    | prestarted count =>
      obtain ⟨n, hg⟩ := s.pool.prestart_grew count
      exact hr.manned.grew hg
    | refactored factory => exact hr.manned

/-- A batch takes no record to the delay queue, and gives no handle away. -/
theorem BatchMove.sheltered (h : BatchMove s choice stage u stage') (hs : Reachable s)
    (hpanic : stage.duty = .carrying r → ∀ failure, stage' ≠ .aborted failure)
    (hr : Sheltered s r) : Sheltered u r := by
  have hexecute : ∀ {r' : Ref}, (r' = r → ∀ f, (s.pool.execute r' choice).answer ≠ .unwound f) →
      Sheltered (s.execute r' choice).1 r := fun hanswer =>
    ⟨hr.unqueued, hr.unpumped, hr.unhandled,
      hr.manned.execute hs.pool_coherent hs.coreSize hanswer⟩
  cases h with
  | entered hanswer => exact hexecute fun _ f hf => by rw [hanswer] at hf; cases hf
  | closed hanswer => exact hexecute fun _ f hf => by rw [hanswer] at hf; cases hf
  | refused hanswer => exact hexecute fun _ f hf => by rw [hanswer] at hf; cases hf
  | unwound _ => exact hexecute fun heq => absurd rfl (hpanic (congrArg Duty.carrying heq) _)
  | @asked error r' left next _ =>
    unfold cancelRecord
    split <;> exact ⟨hr.unqueued, hr.unpumped, hr.unhandled, hr.manned⟩
  | @removed error r' k left =>
    exact ⟨Nat.le_zero.mp (hr.unqueued ▸ s.queue.remove_holds_le k r), hr.unpumped, hr.unhandled,
      hr.manned⟩
  | _ => exact ⟨hr.unqueued, hr.unpumped, hr.unhandled, hr.manned⟩

/-! ## Steps -/

/-- Batches are orderly throughout. -/
theorem Reachable.orderly (h : Reachable s) :
    ∀ {i : Nat} {stage : Batch α}, s.calls[i]? = some (.batch stage) → stage.isOrderly = true := by
  induction h with
  | initial host name config clockEnd now => exact nofun
  | step a hs hstep ih =>
    intro i stage hcall
    rcases step_call hstep hcall with
      hold | ⟨request, rfl, hbegun⟩ | ⟨choice, call, u, rfl, hi, hstage, rfl⟩ |
        ⟨reason, call, u, -, -, hrefusal, -⟩
    · exact ih hold
    · cases request with
      | submitAll count =>
        cases count <;> cases hbegun <;> rfl
      | scheduleSeries delay recurrence =>
        simp only [firstStage] at hbegun
        split at hbegun <;> cases hbegun
      | _ => cases hbegun
    · cases call with
      | batch before =>
        obtain ⟨⟨v, after⟩, hbatch, heq⟩ := Option.map_eq_some_iff.mp hstage
        cases heq
        exact (batchStep_batchMove (ih hi) hbatch).orderly
      | _ =>
        obtain ⟨_, _, heq⟩ := Option.map_eq_some_iff.mp hstage
        cases heq
    · cases hrefusal

/-- What a step does to a batch: it is at it, or leaves it where it is. -/
theorem Reachable.step_batch (hs : Reachable s) (hstep : s.step a = some s')
    (hcall : s.calls[i]? = some (.batch stage)) :
    (s'.calls[i]? = some (.batch stage) ∧ (∀ choice, a ≠ .call i choice) ∧
        ∀ reason, a ≠ .callRefused i reason) ∨
      ∃ choice u stage', a = .call i choice ∧ BatchMove s choice stage u stage' ∧
        s'.calls[i]? = some (.batch stage') ∧
        s' = { u with calls := s.calls.set i (.batch stage') } := by
  obtain ⟨hlt, -⟩ := List.getElem?_eq_some_iff.mp hcall
  rcases step_calls hstep with
    ⟨hsame, -, hnot, hnot'⟩ | ⟨request, rfl, hbegun⟩ |
      ⟨j, choice, call, u, call', rfl, hj, hstage, rfl⟩ |
      ⟨j, reason, call, u, call', rfl, hj, hrefusal, rfl⟩
  · exact .inl ⟨hsame ▸ hcall, hnot i, hnot' i⟩
  · refine .inl ⟨?_, nofun, nofun⟩
    rw [hbegun, List.getElem?_append_left hlt]
    exact hcall
  · by_cases hij : j = i
    · subst hij
      obtain rfl := Option.some.inj (hj.symm.trans hcall)
      obtain ⟨⟨v, stage'⟩, hbatch, heq⟩ := Option.map_eq_some_iff.mp hstage
      cases heq
      exact .inr ⟨choice, u, stage', rfl, batchStep_batchMove (hs.orderly hcall) hbatch,
        List.getElem?_set_self hlt, rfl⟩
    · refine .inl ⟨?_, ?_, nofun⟩
      · show (s.calls.set j call')[i]? = _
        rw [List.getElem?_set_ne hij]
        exact hcall
      · rintro choice' ⟨⟩
        exact hij rfl
  · have hij : j ≠ i := by
      rintro rfl
      obtain rfl := Option.some.inj (hj.symm.trans hcall)
      cases hrefusal
    refine .inl ⟨?_, nofun, ?_⟩
    · show (s.calls.set j call')[i]? = _
      rw [List.getElem?_set_ne hij]
      exact hcall
    · rintro reason' ⟨⟩
      exact hij rfl

/-- The record belongs to the `i`-th call, a batch, and nobody else can name it. -/
structure Reserved (s : System α) (i : Nat) (r : Ref) : Prop where
  record : ∃ x, s.record? r = some x ∧ x.repeats = false
  batch : ∃ stage, s.calls[i]? = some (.batch stage)
  sole : ∀ {j : Nat} {call : Call α}, s.calls[j]? = some call → r ∈ call.concerns → j = i
  sheltered : Sheltered s r

theorem Reserved.made (h : Reserved s i r) : r < s.records.length := by
  obtain ⟨x, hx, -⟩ := h.record
  exact (List.getElem?_eq_some_iff.mp hx).1

theorem Reserved.once (h : Reserved s i r) : s.repeats r = false := by
  obtain ⟨x, hx, honce⟩ := h.record
  rw [repeats_of_record hx, honce]

theorem Reserved.step_sole (h : Reserved s i r) (hstep : s.step a = some s') {j : Nat}
    {call : Call α} (hcall : s'.calls[j]? = some call) (hr : r ∈ call.concerns) : j = i := by
  rcases step_call hstep hcall with
    hold | ⟨request, rfl, rfl⟩ | ⟨choice, before, u, rfl, hj, hstage, -⟩ |
      ⟨reason, before, u, rfl, hj, hrefusal, -⟩
  · exact h.sole hold hr
  · rcases firstStage_concerns hr with hhandle | ⟨hnew, -⟩
    · rw [System.step] at hstep
      split at hstep
      next hgranted => exact absurd (by simpa [hhandle] using hgranted) h.sheltered.unhandled
      next => cases hstep
    · exact absurd hnew (Nat.ne_of_lt h.made)
  · rcases stageStep_concerns hstage hr with hbefore | ⟨hnew, -⟩
    · exact h.sole hj hbefore
    · exact absurd hnew (Nat.ne_of_lt h.made)
  · exact h.sole hj (hrefusal.concerns ▸ hr)

theorem Reserved.step_sheltered (h : Reserved s i r) (hs : Reachable s)
    (hstep : s.step a = some s')
    (hpanic : 0 < s.arriving r → ∀ failure, s'.calls[i]? ≠ some (.batch (.aborted failure))) :
    Sheltered s' r := by
  obtain ⟨stage, hbatch⟩ := h.batch
  rcases hs.step_batch hstep hbatch with
    ⟨-, hnot, hnot'⟩ | ⟨choice, u, stage', rfl, hmove, hnext, rfl⟩
  · obtain ⟨t, hmove, hcore⟩ := step_move hstep
    have ht : Sheltered t r := by
      cases hmove with
      | begun hcall => exact (hcall.sheltered hs rfl h.sheltered).congr rfl rfl rfl rfl
      | @called j choice call call' v hj hcall =>
        have hother : call.duty.submits r = false := by
          refine Bool.eq_false_iff.mpr fun hsubmits => ?_
          obtain rfl := h.sole hj (Call.concerns_of_duty hsubmits)
          exact hnot choice rfl
        exact (hcall.sheltered hs hother h.sheltered).congr rfl rfl rfl rfl
      | @callRefused j reason call call' v hj hcall hfollows =>
        have hother : call.duty.submits r = false := by
          refine Bool.eq_false_iff.mpr fun hsubmits => ?_
          obtain rfl := h.sole hj (Call.concerns_of_duty hsubmits)
          exact hnot' reason rfl
        exact (hcall.sheltered hs hother h.sheltered).congr rfl rfl rfl rfl
      | pumped hpump | pumpIdled hpump | pumpFaulted hpump => exact hpump.sheltered hs h.sheltered
      | worked hworker => exact hworker.sheltered hs h.once h.sheltered
      | resized size => exact (OwnerMove.resized size).sheltered h.sheltered
      | prestarted count => exact (OwnerMove.prestarted count).sheltered h.sheltered
      | refactored factory => exact (OwnerMove.refactored factory).sheltered h.sheltered
      | timePassed time => exact h.sheltered.congr rfl rfl rfl rfl
      | declined _ => exact h.sheltered
    exact ht.congr (congrArg (fun w => w.queue) hcore) (congrArg (fun w => w.pump) hcore)
      (congrArg (fun w => w.handles) hcore) (congrArg (fun w => w.pool) hcore)
  · refine (hmove.sheltered hs ?_ h.sheltered).congr rfl rfl rfl rfl
    rintro hcarries failure rfl
    have hpos : 0 < s.arriving r := countP_pos_of_getElem? hbatch (by
      show (stage.duty == .carrying r) = true
      rw [hcarries, beq_self_eq_true])
    exact hpanic hpos failure hnext

/-- What belongs to a batch still does after a step, unless a panic goes through the submission of
the record. -/
theorem Reserved.step (h : Reserved s i r) (hs : Reachable s) (hstep : s.step a = some s')
    (hpanic : 0 < s.arriving r → ∀ failure, s'.calls[i]? ≠ some (.batch (.aborted failure))) :
    Reserved s' i r where
  record := by
    obtain ⟨x, hx, honce⟩ := h.record
    obtain ⟨y, hy, hkeeps⟩ := step_record hstep hx
    exact ⟨y, hy, hkeeps.repeats.trans honce⟩
  batch := by
    obtain ⟨stage, hbatch⟩ := h.batch
    rcases hs.step_batch hstep hbatch with ⟨hsame, -⟩ | ⟨_, _, stage', -, -, hnext, -⟩
    · exact ⟨stage, hsame⟩
    · exact ⟨stage', hnext⟩
  sole := h.step_sole hstep
  sheltered := h.step_sheltered hs hstep hpanic

/-- What belongs to a batch still does after a step of others. -/
theorem Reserved.step_other (h : Reserved s i r) (hs : Reachable s) (hstep : s.step a = some s')
    (hother : ∀ choice, a ≠ .call i choice) : Reserved s' i r := by
  refine h.step hs hstep fun hpos failure haborted => ?_
  obtain ⟨call, hcall, hcarries⟩ := List.countP_pos_iff.mp hpos
  obtain ⟨j, hj⟩ := List.mem_iff_getElem?.mp hcall
  have hduty : call.duty = .carrying r := eq_of_beq hcarries
  obtain rfl := h.sole hj (Call.concerns_of_duty (by
    rw [hduty]
    exact beq_self_eq_true r))
  obtain ⟨stage, hbatch⟩ := h.batch
  rcases hs.step_batch hstep hbatch with ⟨hsame, -⟩ | ⟨choice, _, _, heq, -⟩
  · rw [hsame] at haborted
    rw [hbatch] at hj
    cases haborted
    cases hj
    cases hduty
  · exact hother choice heq

/-- A record belongs to the batch that has just made it. -/
theorem Reserved.of_created (hs : Reachable s) {accepted : List Ref} {left : Nat}
    (hcall : s.calls[i]? = some (.batch (.submitting accepted .arriving left)))
    (hs' : s' = { (s.create .once s.now).1 with
      calls := s.calls.set i (.batch (.submitting accepted (.executing s.records.length) left)) }) :
    Reserved s' i s.records.length := by
  have hnew : s.record? s.records.length = none := List.getElem?_eq_none (Nat.le_refl _)
  have hplaces := hs.unmade hnew
  rw [places, Pool.holds] at hplaces
  have hi := (List.getElem?_eq_some_iff.mp hcall).1
  subst hs'
  refine ⟨⟨_, List.getElem?_concat_length, rfl⟩, ⟨_, List.getElem?_set_self hi⟩, ?_, ?_⟩
  · intro j call hj hr
    by_contra hne
    have hj : (s.calls.set i _)[j]? = some call := hj
    rw [List.getElem?_set_ne (Ne.symm hne)] at hj
    exact Nat.lt_irrefl _ (hs.concerned call (List.mem_of_getElem? hj) _ hr)
  · refine ⟨Nat.eq_zero_of_le_zero ?_, Nat.eq_zero_of_le_zero ?_, fun hr => ?_, fun hr => ?_⟩
    · show s.queue.holds s.records.length ≤ 0
      omega
    · show s.pumpHolds s.records.length ≤ 0
      omega
    · exact Nat.lt_irrefl _ ((hs.held _).known (.inr (.inl (hs.handles _ hr))))
    · have hcount : 0 < s.pool.queue.count s.records.length := List.count_pos_iff.mpr hr
      omega

end System

end TaskScheduler
