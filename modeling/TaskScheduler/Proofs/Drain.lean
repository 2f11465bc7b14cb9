import TaskScheduler.Proofs.Cancellation

/-
  What becomes of a record that runs once and is due when the service drains.

  `step_stops`: a record that waits stops waiting in one of seven ways, and only two of them are
  cancellations by the service itself. A worker gives up no record that runs once
  (`Reachable.returns_once`). The pump rejects one only after the last hand-off that it may try
  (`Reachable.exhausted`), and gives one up only if it has put it off before: as long as it has not,
  every entry of the record has the trigger that it was made with, so the record is not early when
  the closed delay queue gives it out (`Prompt`). `drain_gives_up_early_work_only` puts this
  together.

  The trigger that decides is the present one. A hand-off that is put off replaces it by the end of
  the wait, and then a record that was due is given up as early: `put_off_record_is_given_up`.
-/
namespace TaskScheduler

namespace Record

variable {α : Type}

/-- The failed hand-offs of the record are counted as before. -/
def SameHandoffs (a b : Record α) : Prop := b.failedHandoffs = a.failedHandoffs

theorem giveUp_handoffs (a : Record α) : SameHandoffs a a.giveUp.1 := by
  unfold giveUp SameHandoffs
  split <;> rfl

theorem reject_handoffs (a : Record α) (reason : String) :
    SameHandoffs a (a.reject reason).1 := by
  unfold reject SameHandoffs
  split <;> rfl

theorem cancel_handoffs (a : Record α) (mayInterrupt : Bool) :
    SameHandoffs a (a.cancel mayInterrupt).1 := by
  unfold cancel SameHandoffs
  split
  · rfl
  · split <;> rfl
  · rfl

theorem postpone_state (a : Record α) (trigger : Instant) :
    (a.postpone trigger).state = a.state := by
  unfold postpone
  split <;> rfl

theorem enterBody_handoffs (a : Record α) : SameHandoffs a a.enterBody.1 := by
  unfold enterBody SameHandoffs
  split <;> rfl

theorem complete_handoffs (a : Record α) (last now : Instant) (result : BodyResult α) :
    SameHandoffs a (a.complete last now result).1 := by
  unfold complete SameHandoffs
  split
  · split
    · split <;> rfl
    · rfl
    · rfl
  · rfl

end Record

/-- The worker is to put the record back into the delay queue, or has found that queue closed, or is
to start the pump for the record, or could not. -/
def WorkerPhase.returns (r : Ref) : WorkerPhase → Bool
  | requeueing r' | refused r' | startingPump r' _ | retracting r' _ _ | rejecting r' _ => r' == r
  | _ => false

/-- The pump has found the record early, or is about to give it up. -/
def PumpPhase.findsEarly (r : Ref) : PumpPhase → Bool
  | holding r' early | checked r' early => r' == r && early
  | cancelling r' => r' == r
  | _ => false

namespace System

variable {α : Type} {s s' t u : System α} {a : Action α} {duty duty' : Duty} {r : Ref}
  {x : Record α} {trigger : Instant}

/-- The delay queue is closed before an instant. -/
def closesBefore (trigger : Instant) (s : System α) (_ : Action α) (t : System α) : Bool :=
  !s.queue.closed && (t.queue.closed && decide (t.now < trigger))

/-! ## How a record stops waiting -/

/-- The ways in which a record that waits stops waiting. -/
inductive StopsWaiting (r : Ref) (s : System α) (a : Action α) (t : System α) : Prop where
  /-- A worker that has picked it up is about to run it. -/
  | began {i : Nat} : s.pool.phase? i = some (.picked r) → t.state? r = some .running →
      StopsWaiting r s a t
  /-- The pool is closed while it is in the run queue, and no worker can be started for it. -/
  | stranded : s.pump = some .stopping → r ∈ s.pool.queue → t.state? r = some .failed →
      StopsWaiting r s a t
  | rejected {reason : String} : s.pump = some (.rejecting r reason) →
      t.state? r = some .failed → StopsWaiting r s a t
  /-- The pump gives it up because the service drains. -/
  | givenUp : s.pump = some (.cancelling r) → t.state? r = some .cancelled → StopsWaiting r s a t
  /-- A worker could not put it back into the delay queue. -/
  | refused {i : Nat} : s.pool.phase? i = some (.refused r) → t.state? r = some .cancelled →
      StopsWaiting r s a t
  /-- A worker could start no pump for it. -/
  | unlaunched {i : Nat} {reason : String} : s.pool.phase? i = some (.rejecting r reason) →
      t.state? r = some .failed → StopsWaiting r s a t
  /-- It is cancelled by a handle. -/
  | withdrawn {i choice : Nat} {k : Key} : a = .call i choice →
      t.withdrawalAt i = some (.removing r k) → t.state? r = some .cancelled →
      StopsWaiting r s a t

theorem state?_congr (h : t.records = s.records) : t.state? r = s.state? r := by
  rw [state?, state?, record?, record?, h]

theorem StopsWaiting.congr (h : StopsWaiting r s a t) (hrecords : u.records = t.records)
    (hcalls : u.calls = t.calls) : StopsWaiting r s a u := by
  have hstate : u.state? r = t.state? r := state?_congr hrecords
  cases h with
  | began hphase hafter => exact .began hphase (hstate.trans hafter)
  | stranded hpump hqueued hafter => exact .stranded hpump hqueued (hstate.trans hafter)
  | rejected hpump hafter => exact .rejected hpump (hstate.trans hafter)
  | givenUp hpump hafter => exact .givenUp hpump (hstate.trans hafter)
  | refused hphase hafter => exact .refused hphase (hstate.trans hafter)
  | unlaunched hphase hafter => exact .unlaunched hphase (hstate.trans hafter)
  | withdrawn ha hat hafter =>
    rw [withdrawalAt, ← hcalls] at hat
    exact .withdrawn ha hat (hstate.trans hafter)

/-- The record that has stopped waiting is the one that has been changed. -/
theorem modified_of_stops {r' : Ref} {g : Record α → Record α}
    (ht : t.records = s.records.modify r' g) (hpending : s.isPending r = true)
    (hnot : t.isPending r = false) :
    r' = r ∧ ∃ x, s.record? r = some x ∧ x.state = .pending ∧ (g x).state ≠ .pending ∧
      t.state? r = some (g x).state := by
  obtain ⟨x, hx, hstate⟩ := isPending_iff.mp hpending
  have hrecord := record?_of_modify ht r
  by_cases hr : r' = r
  · rw [if_pos hr, hx, Option.map_some] at hrecord
    refine ⟨hr, x, hx, hstate, fun hafter => ?_, by rw [state?, hrecord]; rfl⟩
    rw [isPending_iff.mpr ⟨g x, hrecord, hafter⟩] at hnot
    cases hnot
  · rw [if_neg hr, hx] at hrecord
    rw [isPending_iff.mpr ⟨x, hrecord, hstate⟩] at hnot
    cases hnot

/-- A record that waits still does if all records are as they were. -/
theorem pending_kept (ht : t.records = s.records) (hpending : s.isPending r = true)
    (hnot : t.isPending r = false) : False := by
  rw [isPending_congr ht, hpending] at hnot
  cases hnot

/-- Closing the pool rejects at most what is in the run queue. -/
theorem afterShutdown_record (hx : s.record? r = some x) :
    s.afterShutdown[r]? = some x ∨
      (r ∈ s.pool.queue ∧ ∃ reason, s.afterShutdown[r]? = some (x.reject reason).1) := by
  have hres := s.pool.shutdown_result
  unfold afterShutdown
  generalize s.pool.shutdown = e at hres
  cases hres with
  | stranded reason _ _ =>
    have hafter := rejectAll_record (strandedReason (.spawn reason)) s.pool.queue hx
    by_cases hr : r ∈ s.pool.queue
    · rw [if_pos hr] at hafter
      exact .inr ⟨hr, _, hafter⟩
    · rw [if_neg hr] at hafter
      exact .inl hafter
  | _ => exact .inl hx

theorem PumpMove.stops (h : PumpMove s t) (hpending : s.isPending r = true)
    (hnot : t.isPending r = false) : StopsWaiting r s a t := by
  cases h with
  | gaveUp hpump =>
    obtain ⟨rfl, x, hx, hstate, -, hafter⟩ := modified_of_stops rfl hpending hnot
    rw [Record.giveUp, hstate] at hafter
    exact .givenUp hpump hafter
  | rejected hpump =>
    obtain ⟨rfl, x, hx, hstate, -, hafter⟩ := modified_of_stops rfl hpending hnot
    rw [Record.reject, hstate] at hafter
    exact .rejected hpump hafter
  | noted hpump _ =>
    obtain ⟨-, x, -, hstate, hne, -⟩ := modified_of_stops rfl hpending hnot
    exact absurd hstate hne
  | postponed hpump =>
    obtain ⟨-, x, -, hstate, hne, -⟩ := modified_of_stops rfl hpending hnot
    exact absurd ((x.postpone_state _).trans hstate) hne
  | stopped hpump _ =>
    obtain ⟨x, hx, hstate⟩ := isPending_iff.mp hpending
    rcases afterShutdown_record hx with hsame | ⟨hqueued, reason, hrejected⟩
    · refine absurd ?_ (ne_true_of_eq_false hnot)
      exact isPending_iff.mpr ⟨x, hsame, hstate⟩
    · rw [Record.reject, hstate] at hrejected
      exact .stranded hpump hqueued (state?_eq_some.mpr ⟨_, hrejected, rfl⟩)
  | _ => exact (pending_kept rfl hpending hnot).elim

theorem WorkerMove.stops (h : WorkerMove s a t) (hatt : Attended s r)
    (hpending : s.isPending r = true) (hnot : t.isPending r = false) : StopsWaiting r s a t := by
  -- A worker that is at the body of a record has moved it on before.
  have hbusy : ∀ {i : Nat} {phase : WorkerPhase}, s.pool.phase? i = some phase →
      phase.body? ≠ some r := by
    intro i phase hphase hbody
    rw [hatt.not_pending hphase hbody] at hpending
    cases hpending
  cases h with
  | began hphase _ _ =>
    obtain ⟨rfl, x, -, -, -, hafter⟩ := modified_of_stops rfl hpending hnot
    exact .began hphase hafter
  | gaveUp hphase =>
    obtain ⟨rfl, x, -, hstate, -, hafter⟩ := modified_of_stops rfl hpending hnot
    rw [Record.giveUp, hstate] at hafter
    exact .refused hphase hafter
  | rejected hphase =>
    obtain ⟨rfl, x, -, hstate, -, hafter⟩ := modified_of_stops rfl hpending hnot
    rw [Record.reject, hstate] at hafter
    exact .unlaunched hphase hafter
  | entered hphase _ =>
    obtain ⟨rfl, -⟩ := modified_of_stops rfl hpending hnot
    exact absurd rfl (hbusy hphase)
  | spent hphase _ =>
    obtain ⟨rfl, -⟩ := modified_of_stops rfl hpending hnot
    exact absurd rfl (hbusy hphase)
  | finished hphase _ =>
    obtain ⟨rfl, -⟩ := modified_of_stops rfl hpending hnot
    exact absurd rfl (hbusy hphase)
  | rescheduled hphase _ _ =>
    obtain ⟨rfl, -⟩ := modified_of_stops rfl hpending hnot
    exact absurd rfl (hbusy hphase)
  | _ => exact (pending_kept rfl hpending hnot).elim

theorem Move.stops (h : Move s a t) (hbegin : ∀ request, a ≠ .begin request)
    (hatt : Attended s r) (hpending : s.isPending r = true) (hnot : t.isPending r = false) :
    StopsWaiting r s a t := by
  cases h with
  | begun _ => exact absurd rfl (hbegin _)
  | @called i choice call call' v hcall hmove =>
    obtain ⟨x, hx, hstate⟩ := isPending_iff.mp hpending
    obtain ⟨y, hy, hwaits | ⟨hcancelled, hduty⟩⟩ := hmove.pending_record hx hstate
    · exact absurd (isPending_iff.mpr ⟨y, hy, hwaits⟩) (ne_true_of_eq_false hnot)
    · have hlt : i < v.calls.length := hmove.calls ▸ (List.getElem?_eq_some_iff.mp hcall).1
      have hat : ((v.calls.set i call')[i]?).bind (·.withdrawal?) = some (.removing r x.key) := by
        rw [List.getElem?_set_self hlt]
        exact Call.withdrawal?_of_duty hduty
      exact .withdrawn rfl hat (state?_eq_some.mpr ⟨y, hy, hcancelled⟩)
  | @callRefused i reason call call' v hcall hmove hrefused =>
    exact (pending_kept (hmove.refused_frame hrefused).1 hpending hnot).elim
  | pumped hmove | pumpIdled hmove | pumpFaulted hmove => exact hmove.stops hpending hnot
  | worked hmove => exact hmove.stops hatt hpending hnot
  | _ => exact (pending_kept rfl hpending hnot).elim

/-- A call that begins leaves the records alone that are there. -/
theorem begin_record {request : Request} (hx : s.record? r = some x) :
    (s.begin request).record? r = some x := by
  have hmade : ∀ {v : System α} (record : Record α), v.records = s.records ++ [record] →
      v.record? r = some x := by
    intro v record hv
    obtain ⟨hlt, -⟩ := List.getElem?_eq_some_iff.mp hx
    rw [record?, hv, List.getElem?_append_left hlt]
    exact hx
  cases request with
  | schedule delay => exact hmade _ rfl
  | scheduleSeries delay recurrence =>
    simp only [begin, firstStage]
    split
    · exact hx
    · exact hmade _ rfl
  | submitAll count => cases count <;> exact hx
  | _ => exact hx

/-- A step at which a record stops waiting is one of these. -/
theorem step_stops (hstep : s.step a = some s') (hatt : Attended s r)
    (hpending : s.isPending r = true) (hnot : s'.isPending r = false) :
    StopsWaiting r s a s' := by
  by_cases hbegin : ∃ request, a = .begin request
  · obtain ⟨request, rfl⟩ := hbegin
    obtain ⟨x, hx, hstate⟩ := isPending_iff.mp hpending
    rw [step] at hstep
    split at hstep
    · cases hstep
      rw [isPending_iff.mpr ⟨x, begin_record hx, hstate⟩] at hnot
      cases hnot
    · cases hstep
  · obtain ⟨t, hmove, hcore⟩ := step_move hstep
    have hrecords : s'.records = t.records := congrArg (fun w => w.records) hcore
    have hcalls : s'.calls = t.calls := congrArg (fun w => w.calls) hcore
    rw [isPending_congr hrecords] at hnot
    exact (hmove.stops (fun request ha => hbegin ⟨request, ha⟩) hatt hpending hnot).congr
      hrecords hcalls

/-! ## Records that a worker puts back -/

theorem WorkerMove.returns (h : WorkerMove s a t)
    (hunpooled : s.repeats r = true → s.pool.holds r = 0)
    (hs : s.pool.tally (·.returns r) = 0) : t.pool.tally (·.returns r) = 0 := by
  have hgoes : ∀ {i : Nat} {old new : WorkerPhase}, s.pool.phase? i = some old →
      t.pool = s.pool.setPhase i new → (new.returns r = true → old.returns r = true) →
      t.pool.tally (·.returns r) = 0 := by
    intro i old new hphase hpool hnew
    have htally := Pool.tally_setPhase hphase new (·.returns r)
    rw [← hpool, hs] at htally
    cases hold : old.returns r with
    | false =>
      rw [hold, Bool.eq_false_iff.mpr fun h => Bool.eq_false_iff.mp hold (hnew h)] at htally
      exact htally
    | true =>
      have hpos : 0 < s.pool.tally (·.returns r) := Pool.tally_pos hphase hold
      omega
  cases h with
  | looked hlook =>
    obtain ⟨old, new, -, htally, hnew⟩ := Pool.look_tally hlook
    have hnone : new.returns r = false := by
      rcases hnew with ⟨-, rfl | rfl⟩ | ⟨r, -, rfl⟩ <;> rfl
    have hbalance := htally (·.returns r)
    rw [hnone, Bool.toNat_false, hs] at hbalance
    exact Nat.eq_zero_of_add_eq_zero_right hbalance
  | expired hexpire => exact ((Pool.expire_tally hexpire).2 _ rfl rfl).trans hs
  | counted hcount => exact ((Pool.countRun_tally hcount).2 _ (fun _ => rfl) rfl).trans hs
  | @rescheduled i r' x result hphase hx hafter =>
    refine hgoes hphase rfl fun hnew => ?_
    obtain rfl : r' = r := eq_of_beq hnew
    -- A run of a record that runs once does not lead to another one.
    have hcompletes := x.complete_completes s.clockEnd s.now (.ofExcept result)
    rw [hafter] at hcompletes
    rcases hcompletes.state with ⟨-, -, hnot⟩ | ⟨-, -, hnot⟩ | ⟨-, -, hrepeats, -⟩
    · cases hnot
    · cases hnot
    · have hzero : s.pool.queue.count r' + s.pool.hands r' = 0 := hunpooled (by
        rw [repeats_of_record hx, hrepeats])
      exact absurd rfl (worker_hand_ne (by omega) hphase)
  | @requeued i r' queue needsPump hphase _ =>
    refine hgoes hphase rfl fun hnew => ?_
    cases needsPump with
    | false => cases hnew
    | true => exact hnew
  | refused hphase _ => exact hgoes hphase rfl fun hnew => hnew
  | unlaunched hphase _ _ => exact hgoes hphase rfl fun hnew => hnew
  | retracted hphase => exact hgoes hphase rfl fun hnew => hnew
  | rejected hphase => exact hgoes hphase rfl (by rintro ⟨⟩)
  | began hphase _ _ => exact hgoes hphase rfl (by rintro ⟨⟩)
  | passedOver hphase _ => exact hgoes hphase rfl (by rintro ⟨⟩)
  | entered hphase _ => exact hgoes hphase rfl (by rintro ⟨⟩)
  | spent hphase _ => exact hgoes hphase rfl (by rintro ⟨⟩)
  | finished hphase _ => exact hgoes hphase rfl (by rintro ⟨⟩)
  | gaveUp hphase => exact hgoes hphase rfl (by rintro ⟨⟩)
  | launched hphase _ _ => exact hgoes hphase rfl (by rintro ⟨⟩)

/-- No worker is to put back a record that runs once. -/
theorem Reachable.returns_once (h : Reachable s) :
    s.repeats r = false → s.pool.tally (·.returns r) = 0 := by
  refine h.of_moves (P := fun s => s.repeats r = false → s.pool.tally (·.returns r) = 0)
    (fun _ => rfl) ?_ ?_
  · intro host name config clockEnd now _
    rfl
  · intro s t a _ hs hmove honce
    have honce' := hmove.keeps.once honce
    have hcalm : CallsPool s t → t.pool.tally (·.returns r) = 0 := fun hcalls =>
      (hcalls.calm _ rfl rfl rfl).trans (hs honce')
    rcases hmove.kinds with ⟨u, _, _, hcall, -, ht⟩ | hpump | hworker | howner | ⟨now, rfl⟩
    · rw [ht]
      exact (hcall.callsPool.calm _ rfl rfl rfl).trans (hs honce')
    · exact hcalm hpump.callsPool
    · refine hworker.returns (fun hrepeats => ?_) (hs honce')
      rw [hrepeats] at honce'
      cases honce'
    · exact hcalm howner.callsPool
    · exact hs honce'

/-! ## Records that are rejected -/

theorem pumpDecide_cases (s : System α) (r : Ref) (early : Bool) :
    s.pumpDecide r early = .cancelling r ∨ (∃ wakeAt, s.pumpDecide r early = .pausing r wakeAt) ∨
      s.pumpDecide r early = .handing r := by
  unfold pumpDecide
  split
  · exact .inl rfl
  · split
    · exact .inl rfl
    · split
      · exact .inr (.inl ⟨_, rfl⟩)
      · exact .inr (.inr rfl)

/-- Failed hand-offs are counted by the pump. -/
theorem Move.handoffs (h : Move s a t) : PumpMove s t ∨ Evolves Record.SameHandoffs s t := by
  have hrefl : ∀ x : Record α, Record.SameHandoffs x x := fun _ => rfl
  have hcalls : ∀ {duty duty' : Duty} {u : System α}, CallMove s duty u duty' →
      Evolves Record.SameHandoffs s u := by
    intro duty duty' u hmove
    cases hmove with
    | created recurrence trigger => exact .of_append rfl rfl hrefl ⟨rfl, rfl, rfl, rfl, rfl⟩
    | asked mayInterrupt _ =>
      exact .of_modify rfl rfl hrefl fun x _ => x.cancel_handoffs mayInterrupt
    | collected => exact .of_modify rfl rfl hrefl fun _ _ => rfl
    | _ => exact .of_records rfl rfl hrefl
  cases h with
  | begun hmove =>
    have h := hcalls hmove
    exact .inr ⟨h.kept, h.made, h.counted⟩
  | called _ hmove | callRefused _ hmove =>
    have h := hcalls hmove
    exact .inr ⟨h.kept, h.made, h.counted⟩
  | pumped hmove | pumpIdled hmove | pumpFaulted hmove => exact .inl hmove
  | worked hmove =>
    right
    cases hmove with
    | began _ _ _ => exact .of_modify rfl rfl hrefl fun _ _ => rfl
    | entered _ _ => exact .of_modify rfl rfl hrefl fun x _ => x.enterBody_handoffs
    | spent _ _ =>
      refine .of_modify rfl rfl hrefl fun x _ => ?_
      exact (x.enterBody.1.complete_handoffs _ _ _).trans x.enterBody_handoffs
    | finished _ _ => exact .of_modify rfl rfl hrefl fun x _ => x.complete_handoffs _ _ _
    | rescheduled _ _ _ => exact .of_modify rfl rfl hrefl fun x _ => x.complete_handoffs _ _ _
    | gaveUp _ => exact .of_modify rfl rfl hrefl fun x _ => x.giveUp_handoffs
    | rejected _ => exact .of_modify rfl rfl hrefl fun x _ => x.reject_handoffs _
    | _ => exact .of_records rfl rfl hrefl
  | _ => exact .inr (.of_records rfl rfl hrefl)

/-- The record has had as many failed hand-offs as are allowed. -/
def Exhausted (s : System α) (r : Ref) : Prop :=
  ∃ x, s.record? r = some x ∧ s.config.retryLimit ≤ x.failedHandoffs

/-- The pump comes to reject a record by noting the last failed hand-off. -/
theorem PumpMove.exhausted {reason : String} (h : PumpMove s t) (hs : Reachable s)
    (hpump : t.pump = some (.rejecting r reason)) : t.Exhausted r := by
  cases h with
  | @noted r' reason' next hfailed hafter =>
    cases hpump
    cases hafter with
    | rejecting hlimit =>
      obtain ⟨x, hx⟩ := hs.known_in_hand hfailed rfl
      refine ⟨x.noteHandoffFailure, ?_, hlimit _ hx⟩
      rw [record?_of_modify rfl, if_pos rfl, hx, Option.map_some]
  | @wentOn phase next _ hgoes =>
    cases hpump
    generalize hnext : PumpPhase.rejecting r reason = next at hgoes
    cases hgoes with
    | decided =>
      rcases s.pumpDecide_cases _ _ with heq | ⟨_, heq⟩ | heq <;> rw [heq] at hnext <;> cases hnext
    | _ => cases hnext
  | stopped _ hnext => rcases hnext with rfl | ⟨_, rfl⟩ <;> cases hpump
  | _ => cases hpump

/-- The pump rejects a record after its last failed hand-off. -/
theorem Reachable.exhausted (h : Reachable s) :
    ∀ {r reason}, s.pump = some (.rejecting r reason) → s.Exhausted r := by
  refine h.of_moves
    (P := fun s => ∀ {r reason}, s.pump = some (.rejecting r reason) → s.Exhausted r)
    (fun _ => rfl) nofun ?_
  intro s t a hreach hs hmove r reason hpump
  rcases hmove.handoffs with hpumped | hsame
  · exact hpumped.exhausted hreach hpump
  · rcases hmove.pump_from hpump nofun with hbefore | hpumped
    · obtain ⟨x, hx, hlimit⟩ := hs hbefore
      obtain ⟨y, hy, hxy⟩ := hsame.kept hx
      refine ⟨y, hy, ?_⟩
      rw [hmove.settings.1, hxy]
      exact hlimit
    · exact hpumped.exhausted hreach hpump

/-! ## Records that are due -/

/-- Nothing that is kept about the record lets it look early: it runs once, its trigger and its
entries are what it was made with, the delay queue is not closed before that, and the pump has not
found it early. -/
structure Prompt (s : System α) (r : Ref) (trigger : Instant) : Prop where
  record : ∀ {x}, s.record? r = some x → x.recurrence = .once ∧ x.trigger = trigger
  entry : ∀ {k}, (k, r) ∈ s.queue.entries → k.trigger = trigger
  closed : s.queue.closed = true → trigger ≤ s.now
  pump : s.pump.any (·.findsEarly r) = false

theorem Prompt.once (h : Prompt s r trigger) : s.repeats r = false := by
  unfold repeats
  cases hx : s.record? r with
  | none => rfl
  | some x => rw [Option.any_some, Record.repeats, (h.record hx).1, Recurrence.repeats]

/-- What the pump decides on is not to give the record up, as it has not found it early. -/
theorem Prompt.decision {r' : Ref} {early : Bool} (h : Prompt s r trigger)
    (hpump : s.pump = some (.checked r' early)) :
    (s.pumpDecide r' early).findsEarly r = false := by
  have hearly := h.pump
  rw [hpump, Option.any_some, PumpPhase.findsEarly] at hearly
  by_cases hr : r' = r
  · subst hr
    rw [beq_self_eq_true, Bool.true_and] at hearly
    rw [hearly, pumpDecide, h.once, Bool.and_false, Bool.false_and, Bool.false_and]
    rfl
  · rcases s.pumpDecide_cases r' early with heq | ⟨_, heq⟩ | heq
    · rw [heq]
      exact beq_false_of_ne hr
    · rw [heq]
      rfl
    · rw [heq]
      rfl

theorem Prompt.pump_move (h : Prompt s r trigger) (hmove : PumpMove s t) :
    t.pump.any (·.findsEarly r) = false := by
  have hearly := h.pump
  cases hmove with
  | @took k r' rest hpump hentries hdue =>
    show (r' == r && decide (s.now < k.trigger)) = false
    by_cases hr : r' = r
    · subst hr
      have hkey : k.trigger = trigger := h.entry (by rw [hentries]; exact List.mem_cons_self)
      have hle : k.trigger ≤ s.now :=
        hdue.elim (fun hle => hle) fun hclosed => hkey ▸ h.closed hclosed
      rw [decide_eq_false (Int.not_lt.mpr hle), Bool.and_false]
    · rw [beq_false_of_ne hr, Bool.false_and]
  | wentOn hpump hgoes =>
    cases hgoes with
    | checked _ =>
      rw [hpump] at hearly
      exact hearly
    | decided => exact h.decision hpump
    | _ => rfl
  | noted _ hafter => cases hafter <;> rfl
  | stopped _ hnext => rcases hnext with rfl | ⟨_, rfl⟩ <;> rfl
  | _ => rfl

/-- What a move does to a record that is there: it keeps its trigger. -/
theorem Prompt.record_kept {y : Record α} (h : Prompt s r trigger) (hmove : Move s a t)
    (hnot : postpones r s a t = false) (hx : s.record? r = some x) (hy : t.record? r = some y) :
    y.recurrence = .once ∧ y.trigger = trigger := by
  obtain ⟨honce, htrigger⟩ := h.record hx
  obtain ⟨y', hy', hkeeps⟩ := hmove.keeps.kept hx
  rw [hy] at hy'
  cases hy'
  have hafter := hmove.trigger hnot hx hy
  rw [honce, Recurrence.nextRun, ite_self] at hafter
  exact ⟨hkeeps.recurrence.trans honce, hafter.trans htrigger⟩

theorem Prompt.move (h : Prompt s r trigger) (hmove : Move s a t)
    (hrecord : ∀ {y}, t.record? r = some y → y.recurrence = .once ∧ y.trigger = trigger)
    (hclosed : closesBefore trigger s a t = false) : Prompt t r trigger where
  record := hrecord
  entry := by
    intro k he
    rcases hmove.entersPending _ he with hold | ⟨-, r', hpending, heq⟩
    · exact h.entry hold
    · cases heq
      obtain ⟨x, hx, -⟩ := isPending_iff.mp hpending
      rw [key_of_record hx]
      exact (h.record hx).2
  closed := by
    intro hafter
    cases hbefore : s.queue.closed with
    | true => exact Int.le_trans (h.closed hbefore) hmove.now_le
    | false =>
      rw [closesBefore, hbefore, hafter] at hclosed
      exact Int.not_lt.mp (of_decide_eq_false hclosed)
  pump := by
    refine eq_false_of_ne_true fun hearly => ?_
    obtain ⟨phase, hpump, hphase⟩ := (Option.any_eq_true _ _).mp hearly
    have hnot : phase ≠ .waiting := by
      rintro rfl
      cases hphase
    rcases hmove.pump_from hpump hnot with hbefore | hpumped
    · have hnone := h.pump
      rw [hbefore, Option.any_some, hphase] at hnone
      cases hnone
    · rw [h.pump_move hpumped] at hearly
      cases hearly

/-- A record that is not there yet is kept nowhere. -/
theorem Prompt.of_new (hs : Reachable s) (hnew : s.record? r = none)
    (hopen : s.queue.closed = true → trigger ≤ s.now) : Prompt s r trigger := by
  have hplaces : s.places r = s.queue.holds r + s.pumpHolds r + s.pool.holds r := rfl
  have hnowhere := hs.unmade hnew
  have hhand : s.pumpHolds r = 0 := by omega
  constructor
  · intro x hx
    rw [hnew] at hx
    cases hx
  · intro k he
    exact absurd he (DelayQueue.holds_eq_zero_iff.mp (by omega) k)
  · exact hopen
  · refine eq_false_of_ne_true fun hearly => ?_
    obtain ⟨phase, hpump, hphase⟩ := (Option.any_eq_true _ _).mp hearly
    refine pump_record_ne hhand hpump ?_
    cases phase with
    | holding r' early | checked r' early =>
      rw [PumpPhase.findsEarly, Bool.and_eq_true] at hphase
      rw [PumpPhase.record?, eq_of_beq hphase.1]
    | cancelling r' => rw [PumpPhase.record?, eq_of_beq hphase]
    | _ => cases hphase

/-! ## Runs -/

theorem Prompt.congr (h : Prompt t r trigger) (hcore : u.core = t.core) : Prompt u r trigger :=
  of_core (P := fun u => Prompt u r trigger)
    (fun _ => propext ⟨fun h => ⟨h.record, h.entry, h.closed, h.pump⟩,
      fun h => ⟨h.record, h.entry, h.closed, h.pump⟩⟩) hcore h

/-- The step that makes the record. -/
theorem Prompt.made {y : Record α} (h : Prompt s r trigger) (hstep : s.step a = some s')
    (hy : s'.record? r = some y) (honce : y.recurrence = .once) (htrigger : y.trigger = trigger)
    (hclosed : closesBefore trigger s a s' = false) : Prompt s' r trigger := by
  obtain ⟨t, hmove, hcore⟩ := step_move hstep
  have hrecord : t.record? r = some y :=
    (congrArg (fun w : System α => w.record? r) hcore.symm).trans hy
  refine (h.move hmove (fun hy' => ?_) ?_).congr hcore
  · rw [hrecord] at hy'
    cases hy'
    exact ⟨honce, htrigger⟩
  · have hqueue : s'.queue = t.queue := congrArg (fun w => w.queue) hcore
    have hnow : s'.now = t.now := congrArg (fun w => w.now) hcore
    rw [closesBefore, ← hqueue, ← hnow]
    exact hclosed

/-- A later step. -/
theorem Prompt.step (h : Prompt s r trigger) (hx : s.record? r = some x)
    (hstep : s.step a = some s') (hnot : postpones r s a s' = false)
    (hclosed : closesBefore trigger s a s' = false) :
    Prompt s' r trigger ∧ ∃ y, s'.record? r = some y := by
  obtain ⟨t, hmove, hcore⟩ := step_move hstep
  have hpump : s'.pump = t.pump := congrArg (fun w => w.pump) hcore
  obtain ⟨y, hy, -⟩ := hmove.keeps.kept hx
  have hy' : s'.record? r = some y :=
    (congrArg (fun w : System α => w.record? r) hcore).trans hy
  rw [postpones, hpump] at hnot
  obtain ⟨honce, htrigger⟩ := h.record_kept hmove hnot hx hy
  exact ⟨h.made hstep hy' honce htrigger hclosed, y, hy'⟩

/-- Over a run at which the record is not put off, and the delay queue not closed before its
trigger. -/
theorem Prompt.exec {actions : List (Action α)} (h : Prompt s r trigger)
    (hx : s.record? r = some x) (hrun : s.exec actions = some t)
    (hnot : s.occurrences (postpones r) actions = 0)
    (hclosed : s.occurrences (closesBefore trigger) actions = 0) : Prompt t r trigger := by
  have hkept : Prompt t r trigger ∧ ∃ y, t.record? r = some y := by
    refine exec_keeps_unless (P := fun s => Prompt s r trigger ∧ ∃ y, s.record? r = some y) ?_
      ⟨h, x, hx⟩ hrun (occurrences_or_eq_zero hnot hclosed)
    rintro s s' a ⟨h, y, hy⟩ hstep hneither
    obtain ⟨hnot, hclosed⟩ := Bool.or_eq_false_iff.mp hneither
    exact h.step hy hstep hnot hclosed
  exact hkept.1

/-- A record that runs once, and that has come to its trigger when the delay queue is closed, is not
given up by the pump because the service drains, unless a hand-off of it has been put off. Whenever
it stops waiting, a worker has picked it up, or the pool was closed with no worker to run it, or the
pump rejects it after as many failed hand-offs as are allowed, or it is cancelled by a handle, or it
has been put off before. And once the service is terminated it does not wait, if its submission was
accepted. -/
theorem drain_gives_up_early_work_only {actions : List (Action α)} (hs : Reachable s)
    (hnew : s.record? r = none) (hmade : s.step a = some s') (hx : s'.record? r = some x)
    (honce : x.recurrence = .once) (hrun : s'.exec actions = some u)
    (hopen : s.queue.closed = true → x.trigger ≤ s.now)
    (hclosed : s.occurrences (closesBefore x.trigger) (a :: actions) = 0) :
    (u.lifecycle = .terminated → r ∈ u.accepted → u.isPending r = false) ∧
    ∀ b v, u.step b = some v → u.isPending r = true → v.isPending r = false →
      (v.state? r = some .running ∧ ∃ i, u.pool.phase? i = some (.picked r)) ∨
      (v.state? r = some .failed ∧
        ((u.pump = some .stopping ∧ r ∈ u.pool.queue) ∨
          ∃ reason, u.pump = some (.rejecting r reason) ∧ u.Exhausted r)) ∨
      (v.state? r = some .cancelled ∧
        ((∃ i choice k, b = .call i choice ∧ v.withdrawalAt i = some (.removing r k)) ∨
          (u.pump = some (.cancelling r) ∧ 0 < s'.occurrences (postpones r) actions))) := by
  have hs' : Reachable s' := hs.step a hmade
  have hu : Reachable u := hs'.exec hrun
  obtain ⟨hclosed', hlater⟩ := occurrences_cons_eq_zero hmade hclosed
  have hprompt : Prompt s' r x.trigger :=
    (Prompt.of_new hs hnew hopen).made hmade hx honce rfl hclosed'
  refine ⟨fun hlife hr => isPending_of_final (hu.accepted_final hlife hr), ?_⟩
  intro b v hstep hpending hnot
  cases step_stops hstep (hu.attended r) hpending hnot with
  | began hphase hafter => exact .inl ⟨hafter, _, hphase⟩
  | stranded hpump hqueued hafter => exact .inr (.inl ⟨hafter, .inl ⟨hpump, hqueued⟩⟩)
  | rejected hpump hafter => exact .inr (.inl ⟨hafter, .inr ⟨_, hpump, hu.exhausted hpump⟩⟩)
  | withdrawn hb hat hafter => exact .inr (.inr ⟨hafter, .inl ⟨_, _, _, hb, hat⟩⟩)
  | givenUp hpump hafter =>
    refine .inr (.inr ⟨hafter, .inr ⟨hpump, ?_⟩⟩)
    rcases Nat.eq_zero_or_pos (s'.occurrences (postpones r) actions) with hzero | hpos
    · -- It has kept its trigger, so the pump has not found it early.
      have hearly := (hprompt.exec hx hrun hzero hlater).pump
      rw [hpump, Option.any_some, PumpPhase.findsEarly, beq_self_eq_true] at hearly
      cases hearly
    · exact hpos
  | refused hphase _ | unlaunched hphase _ =>
    -- No worker puts back what runs once.
    have hzero : u.pool.tally (·.returns r) = 0 := hu.returns_once (by
      rw [exec_repeats hrun hx, repeats_of_record hx, Record.repeats, honce]
      rfl)
    have hpos : 0 < u.pool.tally (·.returns r) := Pool.tally_pos hphase (beq_self_eq_true r)
    omega

/-- A service that gives up at its disposal what is not yet due, and that tries two hand-offs with a
second between them. -/
def impatient (factory : WorkerFactory) : Option (System Unit) :=
  (System.initial .lenient "service"
    { ServiceConfig.ofProcessors 1 with
      dispatcher :=
        { DispatcherConfig.standard with
          retryLimit := 2, retryBackoff := .ofSeconds 1, runDelayedOnShutdown := false } }
    1000000000000 0).exec [.setFactory factory]

/-- A record that is due at once gets into the delay queue, which is closed before the pump looks.
The pump hands the record over, and a worker picks it up. -/
def dueWhenClosed : List (Action Unit) :=
  [.call 0 0, .call 0 0, .call 0 0, .call 0 0, .begin .dispose, .call 1 0, .call 1 0,
    .pump 0, .pump 0, .pump 0, .pump 0, .worker 0]

/-- A record that is due at once gets into the delay queue, and its first hand-off fails and is put
off. Then the delay queue is closed, and the pump takes the record out again. -/
def putOffWhenClosed : List (Action Unit) :=
  [.call 0 0, .call 0 0, .call 0 0, .call 0 0,
    .pump 0, .pump 0, .pump 0, .pump 0, .pump 0, .pump 0, .pump 0,
    .begin .dispose, .call 1 0, .call 1 0, .pump 0, .pump 0, .pump 0]

/-- A record that is due when the delay queue is closed is run, though the service gives up what is
not yet due. -/
theorem due_record_is_run :
    ∃ s, impatient { start := fun _ _ => .started "worker" } = some s ∧
      ∃ s', s.step (.begin (.schedule .zero)) = some s' ∧ ∃ u, s'.exec dueWhenClosed = some u ∧
        ∃ v, u.step (.worker 0) = some v ∧ u.queue.closed = true ∧
          v.state? 0 = some .running ∧ ∃ i, u.pool.phase? i = some (.picked 0) := by
  have hruns : (impatient { start := fun _ _ => .started "worker" }).any (fun s =>
      (s.step (.begin (.schedule .zero))).any fun s' => (s'.exec dueWhenClosed).any fun u =>
        (u.step (.worker 0)).any fun v => decide (u.queue.closed = true ∧
          (s.record? 0).isNone ∧ s.queue.closed = false ∧
          (s'.record? 0).map (fun x => (x.recurrence, x.trigger)) = some (.once, 0) ∧
          s.occurrences (closesBefore 0) (.begin (.schedule .zero) :: dueWhenClosed) = 0 ∧
          u.state? 0 = some .pending ∧ v.state? 0 = some .running)) = true := by
    decide +kernel
  simp only [Option.any_eq_true, decide_eq_true_eq] at hruns
  obtain ⟨s, hs, s', hmade, u, hrun, v, hstep, hclosed, hnew, hopen, hrecord, hnever, hpending,
    hafter⟩ := hruns
  obtain ⟨x, hx, hmade_as⟩ := Option.map_eq_some_iff.mp hrecord
  obtain ⟨honce, htrigger⟩ := Prod.mk.inj hmade_as
  have hreach : Reachable s := Reachable.exec (.initial ..) hs
  obtain ⟨-, hstops⟩ := drain_gives_up_early_work_only hreach (Option.isNone_iff_eq_none.mp hnew)
    hmade hx honce hrun (by rw [hopen]; nofun) (by rw [htrigger]; exact hnever)
  have hwaits : u.isPending 0 = true := by rw [isPending, hpending]; rfl
  have hnot : v.isPending 0 = false := by rw [isPending, hafter]; rfl
  refine ⟨s, hs, s', hmade, u, hrun, v, hstep, hclosed, hafter, ?_⟩
  rcases hstops _ v hstep hwaits hnot with ⟨-, hphase⟩ | ⟨hfailed, -⟩ | ⟨hcancelled, -⟩
  · exact hphase
  · rw [hafter] at hfailed
    cases hfailed
  · rw [hafter] at hcancelled
    cases hcancelled

/-- A record that was due before the delay queue is closed is given up by the pump, since it has
been put off. -/
theorem put_off_record_is_given_up :
    ∃ s, impatient { start := fun _ _ => .refused "no threads" } = some s ∧
      ∃ s', s.step (.begin (.schedule .zero)) = some s' ∧
        (s'.record? 0).map (fun x => (x.recurrence, x.trigger)) = some (.once, 0) ∧
        s.occurrences (closesBefore 0) (.begin (.schedule .zero) :: putOffWhenClosed) = 0 ∧
        ∃ u, s'.exec putOffWhenClosed = some u ∧ u.pump = some (.cancelling 0) ∧
          ∃ v, u.step (.pump 0) = some v ∧ u.state? 0 = some .pending ∧
            v.state? 0 = some .cancelled := by
  have hruns : (impatient { start := fun _ _ => .refused "no threads" }).any (fun s =>
      (s.step (.begin (.schedule .zero))).any fun s' => decide (
        (s'.record? 0).map (fun x => (x.recurrence, x.trigger)) = some (.once, 0) ∧
        s.occurrences (closesBefore 0) (.begin (.schedule .zero) :: putOffWhenClosed) = 0 ∧
        (s'.exec putOffWhenClosed).any fun u => decide (u.pump = some (.cancelling 0) ∧
          (u.step (.pump 0)).any fun v => decide (u.state? 0 = some .pending ∧
            v.state? 0 = some .cancelled)))) = true := by
    decide +kernel
  simpa only [Option.any_eq_true, decide_eq_true_eq] using hruns

end System

end TaskScheduler
