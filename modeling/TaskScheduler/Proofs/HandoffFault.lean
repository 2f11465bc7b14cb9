import TaskScheduler.Proofs.BoundedRetry
import TaskScheduler.Proofs.StartTimes

/-
  The pump cleans up after a panic in a hand-off.

  The pump takes the record out of the run queue, looks whether it is still pending, and goes on as
  after any failure (`CleansUp`). At the end of the turn the record is in the delay queue if it is
  pending, and nowhere if it is not (`Turn.cleaned_up`). Whether the hand-off has failed is decided
  once (`Turn.decided`), and it has, unless the record has been cancelled (`Turn.panic_noted`). The
  clean-up touches nothing that is not the record's (`Turn.leaves_others`).
-/
namespace TaskScheduler

/-- The pump has cleaned up after a panic in the hand-off of the record. -/
def PumpPhase.isWithdrawn (r : Ref) : PumpPhase → Bool
  | withdrawn r' _ => r' == r
  | _ => false

/-- A panic has gone through the hand-off of the record, and the pump has not yet looked whether the
record is still pending. -/
def PumpPhase.isUndecided (r : Ref) (phase : PumpPhase) : Bool :=
  phase.isFaulted r || phase.isWithdrawn r

namespace DelayQueue

/-- The entries of the others do not change when one is put in, unless it replaces one of theirs. -/
theorem filter_insertEntry {k : Key} {r : Ref} {l : List (Key × Ref)}
    (hkeys : ∀ e ∈ l, e.1 = k → e.2 = r) :
    (insertEntry k r l).filter (·.2 ≠ r) = l.filter (·.2 ≠ r) := by
  induction l with
  | nil => simp [insertEntry]
  | cons e rest ih =>
    obtain ⟨k', r'⟩ := e
    have hrest := ih fun e he => hkeys e (List.mem_cons_of_mem _ he)
    simp only [insertEntry]
    split
    · simp
    · split
      next hsame =>
        obtain rfl : r' = r := hkeys (k', r') List.mem_cons_self hsame.symm
        simp
      next => rw [List.filter_cons, List.filter_cons, hrest]

end DelayQueue

namespace System

variable {α : Type} {s s' t u v : System α} {a : Action α} {r : Ref} {phase : PumpPhase}
  {actions : List (Action α)}

/-! ## Whether the hand-off has failed -/

/-- The pump looks again, after a panic, and finds the record no longer pending. -/
def findsGone (r : Ref) (s : System α) (a : Action α) (_ : System α) : Bool :=
  a.isPump && s.pump.any (·.isWithdrawn r) && !s.isPending r

/-- After a panic the pump decides once whether a hand-off has failed. -/
theorem step_decides (hstep : s.step a = some s') (hpump : s.pump = some phase)
    (hrecord : phase.record? = some r) (hafter : phase.isAfterFailure = true) :
    (s'.pump.any (·.isUndecided r)).toNat + (fails r s a s').toNat + (findsGone r s a s').toNat =
      (phase.isUndecided r).toNat := by
  cases step_pump hstep hpump (by rintro rfl; cases hrecord) with
  | other ha hkept =>
    rw [fails, failing, failing, findsGone, ha, hkept, hpump, Bool.not_and_self]
    rfl
  | @own choice _ hown =>
    rw [pumpStep, hpump] at hown
    rw [fails, failing, failing, findsGone, hpump]
    cases phase with
    | faulted r' failure =>
      cases hrecord
      cases hown
      simp [PumpPhase.isUndecided, PumpPhase.isFaulted, PumpPhase.isWithdrawn, PumpPhase.isFailed,
        setPump]
    | withdrawn r' failure =>
      cases hrecord
      cases hown
      cases hpending : s.isPending r <;>
        simp [PumpPhase.isUndecided, PumpPhase.isFaulted, PumpPhase.isWithdrawn,
          PumpPhase.isFailed, setPump, Action.isPump]
    | failed r' reason =>
      cases hrecord
      cases hown
      simp only [pumpFail]
      split <;> simp [PumpPhase.isUndecided, PumpPhase.isFaulted, PumpPhase.isWithdrawn,
        PumpPhase.isFailed, setPump]
    | rejecting | postponing | offering =>
      cases hown
      simp [PumpPhase.isUndecided, PumpPhase.isFaulted, PumpPhase.isWithdrawn, PumpPhase.isFailed,
        setPump]
    | _ => cases hafter
  | panic hcan _ =>
    rw [PumpPhase.canFault_of_after hafter] at hcan
    cases hcan

theorem Turn.decided (h : Turn r s actions t) (hpump : s.pump = some phase)
    (hrecord : phase.record? = some r) (hafter : phase.isAfterFailure = true) :
    s.occurrences (fails r) actions + s.occurrences (findsGone r) actions =
      (phase.isUndecided r).toNat := by
  induction h generalizing phase with
  | ended hends => exact absurd hends (Nat.ne_of_gt (pumpHolds_pos_iff.mpr ⟨_, hpump, hrecord⟩))
  | @goesOn s s' t a rest _ hstep hrest ih =>
    have hdecides := step_decides hstep hpump hrecord hafter
    rw [occurrences_cons hstep, occurrences_cons hstep]
    have hrest' : s'.occurrences (fails r) rest + s'.occurrences (findsGone r) rest =
        (s'.pump.any (·.isUndecided r)).toNat := by
      rcases step_cleans_up hstep hpump hrecord hafter with ⟨-, hkept⟩ | hcleans
      · rw [hkept]
        exact ih hkept hrecord hafter
      · cases hcleans with
        | goesOn hnext hafter' hrecord' _ _ _ _ =>
          rw [hnext]
          exact ih hnext hrecord' hafter'
        | ended hwaiting _ _ _ _ _ =>
          rw [hwaiting]
          cases hrest with
          | ended _ => rfl
          | goesOn hhand _ _ =>
            rw [pumpHolds_of_none (by rw [hwaiting]; rfl)] at hhand
            cases hhand
    omega

theorem Spared.of_records (hstep : s.step a = some s') (hpump : s.pump ≠ none)
    (hrecords : s'.records = s.records) : Spared s s' r := by
  have hrecord : s'.record? r = s.record? r := congrArg (·[r]?) hrecords
  have hrun : s.exec [a] = some s' := exec_of_step hstep rfl
  refine ⟨step_now_le hstep, step_config hstep, exec_clockEnd hrun, ?_, ?_,
    .inl (state?_congr hrecords), step_forsakers_manned hstep hpump⟩
  · rw [System.failures, System.failures, hrecord]
  · rw [System.key, System.key, hrecord]

/-- The pump takes the record out of the run queue. -/
theorem step_withdraws {failure : Failure} {choice : Nat} (hstep : s.step (.pump choice) = some s')
    (hpump : s.pump = some (.faulted r failure)) :
    s'.records = s.records ∧ s'.pump = some (.withdrawn r failure) := by
  have hstep : s.pumpStep choice = some s' := hstep
  rw [pumpStep, hpump] at hstep
  cases hstep
  exact ⟨rfl, rfl⟩

/-- The pump looks at the record again, and leaves it as it is. -/
theorem step_looks_again {failure : Failure} {choice : Nat}
    (hstep : s.step (.pump choice) = some s') (hpump : s.pump = some (.withdrawn r failure)) :
    s'.records = s.records := by
  have hstep : s.pumpStep choice = some s' := hstep
  rw [pumpStep, hpump] at hstep
  cases hstep
  rfl

/-- The pump notes a panic as a failed hand-off, unless the record has been cancelled, or rejected
by a worker that could start no pump for it. -/
theorem Turn.panic_noted {failure : Failure} (h : Turn r s actions t) (hs : Reachable s)
    (htame : Tame s r) (hpump : s.pump = some (.faulted r failure))
    (hnot : s.occurrences (takesUpFaulted r) actions = 0) (hpending : s.isPending r = true)
    (hkept : t.state? r ≠ some .cancelled) :
    (0 < s.forsakers r ∧ t.state? r = some .failed) ∨ 0 < s.occurrences (fails r) actions ∧
      ∃ (u : System α) (later : List (Action α)),
        u.pump = some (.failed r ("hand-off " ++ failure.text)) ∧ Reachable u ∧ Tame u r ∧
        Spared s u r ∧ u.isPending r = true ∧ Turn r u later t ∧
        u.occurrences (takesUpFaulted r) later = 0 := by
  obtain ⟨u, v, choice, rest, hu, hreach, htame, hspared, hstep, hturn, hfewer⟩ :=
    h.next_section hs htame hpump rfl rfl hnot
  obtain ⟨hevent, hnot'⟩ :=
    occurrences_cons_eq_zero hstep (Nat.le_zero.mp (hnot ▸ hfewer (takesUpFaulted r)))
  obtain ⟨hrecords, hwithdrawn⟩ := step_withdraws hstep hu
  have hspared' : Spared s v r := hspared.trans (.of_records hstep (by rw [hu]; nofun) hrecords)
  obtain ⟨u', v', choice', rest', hu', hreach', htame', hspared'', hstep', hturn', hfewer'⟩ :=
    hturn.next_section (hreach.step _ hstep) (htame.step hreach hstep hevent) hwithdrawn rfl rfl
      hnot'
  obtain ⟨hevent', hnot''⟩ :=
    occurrences_cons_eq_zero hstep' (Nat.le_zero.mp (hnot' ▸ hfewer' (takesUpFaulted r)))
  have hspared' := hspared'.trans hspared''
  refine (hspared'.pending hpending (exec_of_step hstep' hturn'.exec) hkept).imp_right fun hx => ?_
  have hwaits : u'.isPending r = true := isPending_iff.mpr hx
  have hfailed : Failed u' r (.pump choice') ("hand-off " ++ failure.text) := .panicked hu' hwaits
  obtain ⟨hfails, hnext⟩ := hfailed.fails hstep'
  have hrecords' := step_looks_again hstep' hu'
  refine ⟨?_, v', rest', hnext, hreach'.step _ hstep', htame'.step hreach' hstep' hevent',
    hspared'.trans (.of_records hstep' (by rw [hu']; nofun) hrecords'), ?_, hturn', hnot''⟩
  · have hmore := hfewer' (fails r)
    have hmost := hfewer (fails r)
    rw [occurrences_cons hstep', hfails, Bool.toNat_true] at hmore
    rw [occurrences_cons hstep] at hmost
    omega
  · rw [isPending_congr hrecords']
    exact hwaits

/-! ## What is left alone -/

/-- Nothing but one record is changed, and what is only counted or reported, the clock and the
calls. -/
structure Apart (r : Ref) (s t : System α) : Prop where
  pool : t.pool = s.pool
  queue : t.queue = s.queue
  others : ∀ r', r' ≠ r → t.record? r' = s.record? r'

/-- A run at which all but the pump keep apart. -/
def Quiet (r : Ref) (s : System α) : List (Action α) → Prop
  | [] => True
  | a :: rest => ∀ s', s.step a = some s' →
      (a.isPump = false → Apart r s s') ∧ Quiet r s' rest

theorem Quiet.of_pump (h : ∀ a ∈ actions, a.isPump = true) : Quiet r s actions := by
  induction actions generalizing s with
  | nil => trivial
  | cons a rest ih =>
    refine fun s' _ => ⟨fun ha => ?_, ih fun a ha => h a (List.mem_cons_of_mem _ ha)⟩
    rw [h a List.mem_cons_self] at ha
    cases ha

/-- What is not the record's is as it was: the entries and the records of the others, and whether
the delay queue is closed and has a consumer. -/
structure Spares (r : Ref) (s t : System α) : Prop where
  entries : t.queue.entries.filter (·.2 ≠ r) = s.queue.entries.filter (·.2 ≠ r)
  closed : t.queue.closed = s.queue.closed
  consumer : t.queue.consumerActive = s.queue.consumerActive
  others : ∀ r', r' ≠ r → t.record? r' = s.record? r'

theorem Spares.of_queue (hqueue : t.queue = s.queue)
    (hothers : ∀ r', r' ≠ r → t.record? r' = s.record? r') : Spares r s t :=
  ⟨by rw [hqueue], by rw [hqueue], by rw [hqueue], hothers⟩

theorem Spares.trans (h : Spares r s t) (h' : Spares r t u) : Spares r s u :=
  ⟨h'.entries.trans h.entries, h'.closed.trans h.closed, h'.consumer.trans h.consumer,
    fun r' hr => (h'.others r' hr).trans (h.others r' hr)⟩

theorem CleansUp.spares (h : CleansUp r phase s t) (hs : Reachable s) : Spares r s t := by
  cases h with
  | goesOn _ _ _ _ hqueue _ hothers => exact .of_queue hqueue hothers
  | ended _ _ _ hqueue hback hothers =>
    obtain ⟨hentries, hclosed, hconsumer⟩ := s.queue.putBack_entries (t.isPending r) (s.key r) r
    rw [← hqueue] at hentries hclosed hconsumer
    refine ⟨?_, hclosed, hconsumer, hothers⟩
    rw [hentries]
    cases hpending : t.isPending r with
    | false => rfl
    | true =>
      exact DelayQueue.filter_insertEntry
        (hs.numbered.entry_unique (hs.numbered.key r))

/-- The clean-up after a panic takes the record out of the run queue, and touches nothing that is
not the record's. -/
theorem Turn.leaves_others (h : Turn r s actions t) (hs : Reachable s)
    (hpump : s.pump = some phase) (hrecord : phase.record? = some r)
    (hafter : phase.isAfterFailure = true) (hquiet : Quiet r s actions) :
    Spares r s t ∧ t.pool = (if phase.isFaulted r then (s.pool.withdraw r).1 else s.pool) := by
  induction h generalizing phase with
  | ended hends => exact absurd hends (Nat.ne_of_gt (pumpHolds_pos_iff.mpr ⟨_, hpump, hrecord⟩))
  | @goesOn s s' t a rest _ hstep hrest ih =>
    have hs' := hs.step a hstep
    obtain ⟨hapart, hquiet'⟩ := hquiet s' hstep
    rcases step_cleans_up hstep hpump hrecord hafter with ⟨ha, hkept⟩ | hcleans
    · obtain ⟨hpool, hqueue, hothers⟩ := hapart ha
      obtain ⟨hspares, hpool'⟩ := ih hs' hkept hrecord hafter hquiet'
      rw [hpool] at hpool'
      exact ⟨(Spares.of_queue hqueue hothers).trans hspares, hpool'⟩
    · have hspares := hcleans.spares hs
      cases hcleans with
      | goesOn hnext hafter' hrecord' hsound _ hpool _ =>
        obtain ⟨hspares', hpool'⟩ := ih hs' hnext hrecord' hafter' hquiet'
        rw [hsound] at hpool'
        exact ⟨hspares.trans hspares', hpool'.trans hpool⟩
      | ended hwaiting hsound hpool _ _ _ =>
        obtain rfl : t = s' := hrest.ended_of_released (pumpHolds_of_none (by rw [hwaiting]; rfl) r)
        rw [hsound]
        exact ⟨hspares, hpool⟩

end System

end TaskScheduler
