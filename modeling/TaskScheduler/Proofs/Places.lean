import TaskScheduler.Proofs.Bodies
import TaskScheduler.Proofs.Numbering
import TaskScheduler.Proofs.Pool.Holding
import TaskScheduler.Proofs.Submissions

/-
  The places where the service holds records.

  `places s r` counts the entries of the delay queue and of the run queue, the hands of workers and
  the hand of the pump that hold a record. `PumpMove.moves`, `WorkerMove.moves`, `CallMove.moves`: a
  record leaves a place for another one, or does not wait any more, and it gets a further place only
  from the call that has made it, or when a panic of the factory goes through a hand-off. Where no
  pump can be started for a record, it leaves the delay queue for no other place: its worker is
  about to reject it (`condemned`), or its submission is about to fail (`Duty.retracts`).
-/
namespace TaskScheduler

/-- The call has got the record into a queue, and is to see it accepted. -/
def Duty.admits (r : Ref) : Duty → Bool
  | launching (some (r', _)) | counting r' => r' == r
  | _ => false

/-- The call has found that no pump can be started for the record. -/
def Duty.retracts (r : Ref) : Duty → Bool
  | retracting r' _ => r' == r
  | _ => false

/-- The worker is about to reject the record, for which no pump can be started. -/
def WorkerPhase.rejects (r : Ref) : WorkerPhase → Bool
  | rejecting r' _ => r' == r
  | _ => false

namespace System

variable {α : Type} {s t : System α} {a : Action α} {duty duty' : Duty} {r : Ref}

/-- The pump has the record in hand. -/
def pumpHolds (s : System α) (r : Ref) : Nat := (s.pump.bind (·.record?) == some r).toNat

/-- The number of places that hold a record: entries of the delay queue, the pump's hand, entries of
the run queue, and hands of workers. -/
def places (s : System α) (r : Ref) : Nat := s.queue.holds r + s.pumpHolds r + s.pool.holds r

theorem pumpHolds_of_record {phase : PumpPhase} {r' : Ref} (h : s.pump = some phase)
    (hr : phase.record? = some r') (r : Ref) : s.pumpHolds r = (r' == r).toNat := by
  rw [pumpHolds, h, Option.bind_some, hr]
  rfl

theorem pumpHolds_of_none (h : s.pump.bind (·.record?) = none) (r : Ref) : s.pumpHolds r = 0 := by
  rw [pumpHolds, h]
  rfl

theorem places_of_record {phase : PumpPhase} {r' : Ref} (h : s.pump = some phase)
    (hr : phase.record? = some r') (r : Ref) :
    s.places r = s.queue.holds r + (r' == r).toNat + s.pool.holds r := by
  rw [places, pumpHolds_of_record h hr]

theorem places_of_none (h : s.pump.bind (·.record?) = none) (r : Ref) :
    s.places r = s.queue.holds r + s.pool.holds r := by
  rw [places, pumpHolds_of_none h, Nat.add_zero]

/-- The number of workers that are about to reject the record. -/
def condemned (s : System α) (r : Ref) : Nat := s.pool.tally (·.rejects r)

/-- A record is somewhere, or about to be rejected, or it does not wait any more. -/
def Safe (t : System α) (r : Ref) : Prop :=
  0 < t.places r ∨ 0 < t.condemned r ∨ t.isPending r = false

/-- What a move of the pump, a worker or the owner may do to the places of a record. -/
structure Moves (s t : System α) (r : Ref) : Prop where
  kept : 0 < s.places r → t.Safe r
  bounded : t.places r ≤ s.places r

theorem Moves.of_eq (h : t.places r = s.places r) : Moves s t r :=
  ⟨fun hpos => .inl (h ▸ hpos), Nat.le_of_eq h⟩

/-- One place of one record is given up, when that record does not wait any more. -/
theorem Moves.of_released (r' : Ref) (h : t.places r + (r' == r).toNat = s.places r)
    (hstate : t.isPending r' = false) : Moves s t r := by
  refine ⟨fun hpos => ?_, by omega⟩
  by_cases hr : r' = r
  · exact .inr (.inr (hr ▸ hstate))
  · rw [beq_false_of_ne hr] at h
    have hsame : t.places r = s.places r := h
    exact .inl (hsame ▸ hpos)

/-- A record that is offered to the delay queue gets in if it waits, and nothing else changes. -/
theorem holds_offered {r' : Ref} (hs : Numbered s)
    (hentries : t.queue.entries =
      DelayQueue.entriesWith (s.isPending r') (s.key r') r' s.queue.entries) (r : Ref) :
    s.queue.holds r ≤ t.queue.holds r ∧ t.queue.holds r ≤ s.queue.holds r + (r' == r).toNat ∧
      (s.isPending r' = true → (r' == r).toNat ≤ t.queue.holds r) := by
  rw [DelayQueue.holds, DelayQueue.holds, hentries]
  cases hpending : s.isPending r' with
  | false =>
    exact ⟨Nat.le_refl _, Nat.le_add_right _ _, fun hwaits => absurd hwaits Bool.false_ne_true⟩
  | true =>
    rw [DelayQueue.entriesWith, if_pos rfl]
    obtain ⟨hle, hge, hnew⟩ := DelayQueue.countP_insertEntry (hs.entry_unique (hs.key r')) r
    exact ⟨hge, hle, fun _ => hnew⟩

theorem Safe.of_offered {r' : Ref} (hs : Numbered s)
    (hentries : t.queue.entries =
      DelayQueue.entriesWith (s.isPending r') (s.key r') r' s.queue.entries)
    (hrecords : t.records = s.records) : t.Safe r' := by
  have hnew := (holds_offered hs hentries r').2.2
  rw [beq_self_eq_true, Bool.toNat_true] at hnew
  have hplaces : t.places r' = t.queue.holds r' + t.pumpHolds r' + t.pool.holds r' := rfl
  cases hpending : s.isPending r' with
  | false => exact .inr (.inr ((isPending_congr hrecords).trans hpending))
  | true =>
    have hpos := hnew hpending
    exact .inl (by omega)

/-- A record is let go of on the way to `u`, and offered to the delay queue. -/
theorem Moves.of_offered (r' : Ref) {u : System α} (hs : Numbered s)
    (hu : u.places r + (r' == r).toNat = s.places r)
    (hentries : t.queue.entries =
      DelayQueue.entriesWith (s.isPending r') (s.key r') r' s.queue.entries)
    (hrecords : t.records = s.records)
    (hqueue : u.queue = s.queue) (hpool : t.pool = u.pool) (hpump : t.pump = u.pump) :
    Moves s t r := by
  obtain ⟨hge, hle, -⟩ := holds_offered hs hentries r
  have hbefore : u.places r = s.queue.holds r + u.pumpHolds r + u.pool.holds r := by
    rw [places, hqueue]
  have hafter : t.places r = t.queue.holds r + u.pumpHolds r + u.pool.holds r := by
    rw [places, hpool, pumpHolds, hpump]
    rfl
  refine ⟨fun hpos => ?_, by omega⟩
  by_cases hr : r' = r
  · exact hr ▸ Safe.of_offered hs hentries hrecords
  · rw [beq_false_of_ne hr, Bool.toNat_false] at hu
    exact .inl (by omega)

/-! ## The pump -/

/-- The pump keeps the record in hand, and the pool may get it as well. -/
theorem places_kept {phase next : PumpPhase} {r' : Ref} {n : Nat} (hpump : s.pump = some phase)
    (hrecord : phase.record? = some r') (hnext : t.pump = some next)
    (hrecord' : next.record? = some r') (hqueue : t.queue = s.queue)
    (hpool : t.pool.holds r = s.pool.holds r + n) : t.places r = s.places r + n := by
  rw [places_of_record hnext hrecord', places_of_record hpump hrecord, hqueue, hpool]
  omega

/-- The pump lets go of the record in hand, and the pool may have got it. -/
theorem places_released {phase : PumpPhase} {r' : Ref} {n : Nat} (hpump : s.pump = some phase)
    (hrecord : phase.record? = some r') (hnone : t.pump.bind (·.record?) = none)
    (hqueue : t.queue = s.queue) (hpool : t.pool.holds r = s.pool.holds r + n) :
    t.places r + (r' == r).toNat = s.places r + n := by
  rw [places_of_none hnone, places_of_record hpump hrecord, hqueue, hpool]
  omega

/-- The pump has no record in hand, before and after. -/
theorem places_empty {phase : PumpPhase} (hpump : s.pump = some phase)
    (hrecord : phase.record? = none) (hnone : t.pump.bind (·.record?) = none)
    (hqueue : t.queue.entries = s.queue.entries) (hpool : t.pool = s.pool) :
    t.places r = s.places r := by
  rw [places_of_none hnone, places_of_none (s := s) (by rw [hpump]; exact hrecord),
    DelayQueue.holds, DelayQueue.holds, hqueue, hpool]

/-- A panic of the factory has gone through a hand-off: the record is in the run queue, and the pump
still has it in hand. -/
structure Doubles (s t : System α) (r : Ref) : Prop where
  places : t.places r = s.places r + 1
  handing : s.pump = some (.handing r)
  queued : r ∈ t.pool.queue
  faulted : ∃ failure, s.pool.factory.next s.pool.nextIndex = .unwound failure ∧
    t.pump = some (.faulted r failure)

theorem Doubles.held (h : Doubles s t r) : 0 < s.places r := by
  rw [places_of_record h.handing rfl, beq_self_eq_true, Bool.toNat_true]
  omega

theorem moves_of_unwound {r' : Ref} {choice : Nat} {failure : Failure}
    (hpump : s.pump = some (.handing r'))
    (hanswer : (s.pool.execute r' choice).answer = .unwound failure)
    (hnext : t.pump = some (.faulted r' failure)) (hqueue : t.queue = s.queue)
    (hpool : t.pool = (s.pool.execute r' choice).pool) (r : Ref) :
    Moves s t r ∨ Doubles s t r := by
  have hholds := Pool.execute_holds s.pool r' choice r
  rw [hanswer, ← hpool] at hholds
  have hplaces := places_kept hpump rfl hnext rfl hqueue hholds.1
  by_cases hr : r' = r
  · subst hr
    have hpushed := Pool.execute_queue s.pool r' choice
    rw [hanswer, ← hpool] at hpushed
    obtain ⟨-, hpushed, hunwound⟩ := hpushed
    rw [beq_self_eq_true, Bool.toNat_true] at hplaces
    refine .inr ⟨hplaces, hpump, ?_, failure, hunwound, hnext⟩
    rw [hpushed]
    exact List.mem_append_right _ (List.mem_singleton_self _)
  · rw [beq_false_of_ne hr, Bool.toNat_false] at hplaces
    exact .inl (.of_eq hplaces)

theorem Moves.of_withdrawn {r' : Ref} {failure : Failure}
    (hpump : s.pump = some (.faulted r' failure)) (hnext : t.pump = some (.withdrawn r' failure))
    (hqueue : t.queue = s.queue) (hpool : t.pool = (s.pool.withdraw r').1) (r : Ref) :
    Moves s t r := by
  obtain ⟨hle, hother⟩ := Pool.withdraw_holds s.pool r' r
  rw [← hpool] at hle hother
  by_cases hr : r' = r
  · subst hr
    have hbefore := places_of_record hpump rfl r'
    have hafter := places_of_record hnext rfl r'
    rw [beq_self_eq_true, Bool.toNat_true, hqueue] at hafter
    rw [beq_self_eq_true, Bool.toNat_true] at hbefore
    exact ⟨fun _ => .inl (by omega), by omega⟩
  · exact .of_eq (places_kept (n := 0) hpump rfl hnext rfl hqueue (hother hr))

/-- The pool is closed: what it could start no worker for is rejected. -/
theorem Moves.of_stopped (hpump : s.pump = some .stopping)
    (hnext : t.pump.bind (·.record?) = none) (hqueue : t.queue = s.queue)
    (hpool : t.pool = s.pool.shutdown.pool) (hrecords : t.records = s.afterShutdown) (r : Ref) :
    Moves s t r := by
  obtain ⟨hle, hlost⟩ := Pool.shutdown_holds s.pool r
  have hbefore := places_of_none (s := s) (by rw [hpump]; rfl) r
  have hafter := places_of_none hnext r
  rw [hqueue, hpool] at hafter
  refine ⟨fun hpos => ?_, by omega⟩
  rcases hlost with hsame | ⟨error, stranded, hanswer, hstranded⟩
  · exact .inl (by omega)
  · rcases Nat.eq_zero_or_pos (s.queue.holds r) with hzero | hqueued
    · rcases hstranded (by omega) with hheld | hmem
      · exact .inl (by omega)
      · exact .inr (.inr (afterShutdown_rejects hanswer hmem hrecords))
    · exact .inl (by omega)

theorem PumpMove.moves (h : PumpMove s t) (hs : Numbered s) (r : Ref) :
    Moves s t r ∨ Doubles s t r := by
  cases h with
  | @took k r' rest hpump hentries hdue =>
    refine .inl (.of_eq ?_)
    have hholds : s.queue.holds r = rest.countP (fun e => e.2 == r) + (r' == r).toNat := by
      rw [DelayQueue.holds, hentries, List.countP_cons]
      cases r' == r <;> rfl
    rw [places_of_none (s := s) (by rw [hpump]; rfl), hholds]
    rfl
  | passedOver hpump hrecord _ hpending =>
    refine .inl (.of_released _ ?_ hpending)
    exact places_released (n := 0) hpump hrecord (by rfl) (by rfl) (by rfl)
  | wentOn hpump hgoes =>
    obtain ⟨r', hrecord, hnext⟩ := hgoes.record
    exact .inl (.of_eq (places_kept (n := 0) hpump hrecord (by rfl) hnext (by rfl) (by rfl)))
  | @gaveUp r' hpump =>
    refine .inl (.of_released r' ?_ (isPending_of_modify rfl Record.giveUp_state))
    exact places_released (n := 0) hpump rfl (by rfl) (by rfl) (by rfl)
  | @rejected r' reason hpump =>
    refine .inl (.of_released r' ?_ (isPending_of_modify rfl (Record.reject_state · reason)))
    exact places_released (n := 0) hpump rfl (by rfl) (by rfl) (by rfl)
  | noted hpump hafter =>
    exact .inl (.of_eq (places_kept (n := 0) hpump rfl (by rfl) hafter.record (by rfl) (by rfl)))
  | postponed hpump =>
    exact .inl (.of_eq (places_kept (n := 0) hpump rfl (by rfl) rfl (by rfl) (by rfl)))
  | @handedOver r' choice hpump hanswer =>
    have hholds := Pool.execute_holds s.pool r' choice r
    rw [hanswer] at hholds
    exact .inl (.of_eq (Nat.add_right_cancel (places_released hpump rfl (by rfl) (by rfl) hholds)))
  | @refused r' error choice hpump hanswer =>
    have hholds := Pool.execute_holds s.pool r' choice r
    rw [hanswer] at hholds
    exact .inl (.of_eq (places_kept (n := 0) hpump rfl (by rfl) rfl (by rfl) hholds))
  | unwound choice hpump hanswer =>
    exact moves_of_unwound hpump hanswer (by rfl) (by rfl) (by rfl) r
  | withdrew hpump => exact .inl (.of_withdrawn hpump (by rfl) (by rfl) (by rfl) r)
  | @returned r' hpump =>
    refine .inl (.of_offered r' (u := { s with pump := some .waiting }) hs ?_
      (DelayQueue.putBack_entries ..).1 rfl rfl rfl rfl)
    exact places_released (n := 0) hpump rfl (by rfl) (by rfl) (by rfl)
  | stopped hpump hnext =>
    refine .inl (.of_stopped hpump ?_ (by rfl) (by rfl) (by rfl) r)
    rcases hnext with rfl | ⟨failure, rfl⟩ <;> rfl
  | idled hpump _ _ => exact .inl (.of_eq (places_empty hpump rfl (by rfl) (by rfl) (by rfl)))
  | drained hpump _ _ => exact .inl (.of_eq (places_empty hpump rfl (by rfl) (by rfl) (by rfl)))
  | sawDrained hpump _ => exact .inl (.of_eq (places_empty hpump rfl (by rfl) (by rfl) (by rfl)))
  | concluded hpump => exact .inl (.of_eq (places_empty hpump rfl (by rfl) (by rfl) (by rfl)))

/-! ## Workers -/

/-- A run that is over has left no record to wait that did not wait before. -/
theorem isPending_of_finished {r' : Ref} {g : Record α → Record α}
    (h : t.records = s.records.modify r' g) (hpending : s.isPending r' = false)
    (hg : ∀ x, s.record? r' = some x → ∃ x', Record.Enters x x' ∧
      Record.Completes x' (g x) .finished) : t.isPending r' = false := by
  cases hp : t.isPending r' with
  | false => rfl
  | true =>
    obtain ⟨y, hy, hstate⟩ := isPending_iff.mp hp
    rw [record?_of_modify h, if_pos rfl, Option.map_eq_some_iff] at hy
    obtain ⟨x, hx, rfl⟩ := hy
    obtain ⟨x', henters, hcompletes⟩ := hg x hx
    rcases hcompletes.state with ⟨-, hsame, -⟩ | ⟨-, hfinal, -⟩ | ⟨-, -, -, hafter⟩
    · have hx' : s.isPending r' = true :=
        isPending_iff.mpr ⟨x, hx, by rw [← henters.state, ← hsame, hstate]⟩
      rw [hpending] at hx'
      cases hx'
    · rw [Record.isFinal, hstate] at hfinal
      cases hfinal
    · cases hafter

/-- A worker goes on, with the same record in hand or none. -/
theorem places_goesOn {i : Nat} {old new : WorkerPhase} (hphase : s.pool.phase? i = some old)
    (hpool : t.pool = s.pool.setPhase i new) (hhand : new.hand? = old.hand?)
    (hqueue : t.queue = s.queue) (hpump : t.pump.bind (·.record?) = s.pump.bind (·.record?))
    (r : Ref) : t.places r = s.places r := by
  have hholds := Pool.holds_setPhase hphase new r
  rw [hhand] at hholds
  rw [places, places, hqueue, hpool, pumpHolds, pumpHolds, hpump, Nat.add_right_cancel hholds]

/-- A worker lets go of the record in hand. -/
theorem places_letsGo {i : Nat} {r' : Ref} {old new : WorkerPhase}
    (hphase : s.pool.phase? i = some old) (hpool : t.pool = s.pool.setPhase i new)
    (hold : old.hand? = some r') (hnew : new.hand? = none) (hqueue : t.queue = s.queue)
    (hpump : t.pump = s.pump) (r : Ref) : t.places r + (r' == r).toNat = s.places r := by
  have hholds : (s.pool.setPhase i new).holds r + (r' == r).toNat = s.pool.holds r := by
    have hholds := Pool.holds_setPhase hphase new r
    rw [hold, hnew] at hholds
    exact hholds
  rw [places, places, hqueue, hpool, pumpHolds, pumpHolds, hpump]
  omega

/-- The entry that is taken out where no pump can be started is one of the record. -/
theorem remove_places {r' : Ref} {k : Key} (hs : Numbered s) (hfiled : 0 < s.filers r' k)
    (hne : r' ≠ r) : (s.queue.remove k).1.holds r = s.queue.holds r :=
  DelayQueue.remove_holds fun e he hek heq =>
    hne ((hs.entry_unique (hs.filed hfiled) e he hek).symm.trans heq)

/-- A worker takes the record out of the delay queue, and is going to reject it. -/
theorem Moves.of_retracted {i : Nat} {r' : Ref} {k : Key} {reason : String} (hs : Numbered s)
    (hphase : s.pool.phase? i = some (.retracting r' k reason))
    (hqueue : t.queue = (s.queue.remove k).1)
    (hpool : t.pool = s.pool.setPhase i (.rejecting r' reason)) (hpump : t.pump = s.pump)
    (r : Ref) : Moves s t r := by
  have hholds := Pool.holds_setPhase hphase (.rejecting r' reason) r
  rw [← hpool] at hholds
  have hpool' : t.pool.holds r = s.pool.holds r := Nat.add_right_cancel hholds
  have hplaces : t.places r + s.queue.holds r = s.places r + (s.queue.remove k).1.holds r := by
    rw [places, places, hqueue, hpool', pumpHolds, pumpHolds, hpump]
    omega
  have hle := DelayQueue.remove_holds_le s.queue k r
  refine ⟨fun hpos => ?_, by omega⟩
  by_cases hr : r' = r
  · have hafter := Pool.phase?_setPhase_self hphase (.rejecting r' reason)
    rw [← hpool] at hafter
    exact .inr (.inl (Pool.tally_pos hafter (beq_iff_eq.mpr hr)))
  · have hfiled : 0 < s.filers r' k := Nat.lt_of_lt_of_le
      (Pool.tally_pos hphase (beq_self_eq_true (some (r', k)))) (Nat.le_add_left _ _)
    have hsame := remove_places hs hfiled hr
    exact .inl (by omega)

theorem WorkerMove.moves (h : WorkerMove s a t) (hs : Numbered s) (hatt : ∀ r, Attended s r)
    (r : Ref) : Moves s t r := by
  cases h with
  | @looked i pool hlook =>
    refine .of_eq ?_
    show s.queue.holds r + s.pumpHolds r + pool.holds r = _
    rw [Pool.look_holds hlook]
    rfl
  | @expired i pool hexpire =>
    refine .of_eq ?_
    show s.queue.holds r + s.pumpHolds r + pool.holds r = _
    rw [Pool.expire_holds hexpire]
    rfl
  | @counted i pool hcount =>
    refine .of_eq ?_
    show s.queue.holds r + s.pumpHolds r + pool.holds r = _
    rw [Pool.countRun_holds hcount]
    rfl
  | began hphase _ _ =>
    exact .of_eq (places_goesOn hphase rfl (by rfl) (by rfl) (by rfl) r)
  | passedOver hphase hpending =>
    refine .of_released _ ?_ hpending
    exact places_letsGo hphase rfl rfl rfl (by rfl) (by rfl) r
  | entered hphase _ =>
    exact .of_eq (places_goesOn hphase rfl (by rfl) (by rfl) (by rfl) r)
  | @spent i r' hphase _ =>
    have hpending : s.isPending r' = false := (hatt r').not_pending hphase rfl
    refine .of_released r' ?_ (isPending_of_finished rfl hpending fun x _ => ?_)
    · exact places_letsGo hphase rfl rfl rfl (by rfl) (by rfl) r
    · refine ⟨x.enterBody.1, x.enterBody_enters, ?_⟩
      rw [← complete_spent x.enterBody.1 s.clockEnd s.now]
      exact x.enterBody.1.complete_completes _ _ _
  | @finished i r' result hphase hfinished =>
    have hpending : s.isPending r' = false := (hatt r').not_pending hphase rfl
    refine .of_released r' ?_ (isPending_of_finished rfl hpending fun x hx => ?_)
    · exact places_letsGo hphase rfl rfl rfl (by rfl) (by rfl) r
    · refine ⟨x, ⟨rfl, rfl, rfl⟩, ?_⟩
      rw [← hfinished x hx]
      exact x.complete_completes _ _ _
  | rescheduled hphase _ _ =>
    exact .of_eq (places_goesOn hphase rfl (by rfl) (by rfl) (by rfl) r)
  | @requeued i r' queue needsPump hphase hoffer =>
    obtain ⟨-, -, -, -, hentries⟩ := DelayQueue.offer_eq_some hoffer
    have hnone : (if needsPump then WorkerPhase.startingPump r' (s.key r')
        else .ran r').hand? = none := by
      cases needsPump <;> rfl
    refine .of_offered r' (u := { s with
      pool := s.pool.setPhase i (if needsPump then .startingPump r' (s.key r') else .ran r') })
      hs ?_ hentries rfl rfl rfl rfl
    exact places_letsGo hphase rfl rfl hnone (by rfl) (by rfl) r
  | refused hphase _ =>
    exact .of_eq (places_goesOn hphase rfl (by rfl) (by rfl) (by rfl) r)
  | @gaveUp i r' hphase =>
    refine .of_released r' ?_ (isPending_of_modify rfl Record.giveUp_state)
    exact places_letsGo hphase rfl rfl rfl (by rfl) (by rfl) r
  | launched hphase hpump =>
    exact .of_eq (places_goesOn hphase rfl (by rfl) (by rfl) (by rw [hpump]; rfl) r)
  | @unlaunched i r' k reason hphase _ =>
    exact .of_eq (places_goesOn (s := { s with queue := s.queue.releaseConsumer })
      hphase rfl (by rfl) (by rfl) (by rfl) r)
  | @retracted i r' k reason hphase => exact .of_retracted hs hphase (by rfl) (by rfl) (by rfl) r
  | @rejected i r' reason hphase =>
    refine .of_eq ?_
    exact places_goesOn hphase rfl (by rfl) (by rfl) (by rfl) r

theorem CallsPool.condemned (h : CallsPool s t) (r : Ref) : t.condemned r = s.condemned r :=
  h.calm (·.rejects r) rfl rfl rfl

/-- A worker that is about to reject a record does so. -/
theorem WorkerMove.condemned (h : WorkerMove s a t) (hpos : 0 < s.condemned r) :
    0 < t.condemned r ∨ t.isPending r = false := by
  have hgoes : ∀ {i : Nat} {old new : WorkerPhase}, s.pool.phase? i = some old →
      t.pool = s.pool.setPhase i new → old.rejects r = false → 0 < t.condemned r := by
    intro i old new hphase hpool hold
    have htally := Pool.tally_setPhase hphase new (·.rejects r)
    rw [hold, Bool.toNat_false, ← hpool] at htally
    rw [System.condemned] at hpos ⊢
    omega
  cases h with
  | @looked i pool hlook =>
    obtain ⟨old, new, hback, htally, -⟩ := Pool.look_tally hlook
    have hold : (old.rejects r).toNat = 0 := by cases old <;> first | rfl | cases hback
    have hbalance := htally (·.rejects r)
    have hbefore : 0 < s.pool.tally (·.rejects r) := hpos
    refine .inl ?_
    show 0 < pool.tally (·.rejects r)
    omega
  | expired hexpire =>
    have hsame := (Pool.expire_tally hexpire).2 (·.rejects r) rfl rfl
    exact .inl (Nat.lt_of_lt_of_eq hpos hsame.symm)
  | counted hcount =>
    have hsame := (Pool.countRun_tally hcount).2 (·.rejects r) (fun _ => rfl) rfl
    exact .inl (Nat.lt_of_lt_of_eq hpos hsame.symm)
  | @rejected i r' reason hphase =>
    by_cases hr : r' = r
    · exact .inr (hr ▸ isPending_of_modify rfl (Record.reject_state · _))
    · exact .inl (hgoes hphase rfl (beq_false_of_ne hr))
  | requeued hphase _ => exact .inl (hgoes hphase rfl rfl)
  | began hphase _ _ => exact .inl (hgoes hphase rfl rfl)
  | passedOver hphase _ => exact .inl (hgoes hphase rfl rfl)
  | entered hphase _ => exact .inl (hgoes hphase rfl rfl)
  | spent hphase _ => exact .inl (hgoes hphase rfl rfl)
  | finished hphase _ => exact .inl (hgoes hphase rfl rfl)
  | rescheduled hphase _ _ => exact .inl (hgoes hphase rfl rfl)
  | refused hphase _ => exact .inl (hgoes hphase rfl rfl)
  | gaveUp hphase => exact .inl (hgoes hphase rfl rfl)
  | launched hphase _ _ => exact .inl (hgoes hphase rfl rfl)
  | unlaunched hphase _ _ => exact .inl (hgoes hphase rfl rfl)
  | retracted hphase => exact .inl (hgoes hphase rfl rfl)

theorem Move.condemned (h : Move s a t) (hpos : 0 < s.condemned r) :
    0 < t.condemned r ∨ t.isPending r = false := by
  have hcalm : CallsPool s t → 0 < t.condemned r := fun h => (h.condemned r).symm ▸ hpos
  rcases h.kinds with ⟨u, _, _, hcall, -, ht⟩ | hpump | hworker | howner | ⟨now, rfl⟩
  · refine .inl (hcalm ?_)
    rw [CallsPool, show t.pool = u.pool by rw [ht]]
    exact hcall.callsPool
  · exact .inl (hcalm hpump.callsPool)
  · exact hworker.condemned hpos
  · exact .inl (hcalm howner.callsPool)
  · exact .inl hpos

/-! ## Calls -/

/-- The number of calls that have made a record which is in no queue yet. -/
def arriving (s : System α) (r : Ref) : Nat := s.owing (· == .carrying r)

/-- What a section of a call may do to the places of a record. -/
structure CallMoves (s t : System α) (duty duty' : Duty) (r : Ref) : Prop where
  kept : 0 < s.places r → t.Safe r ∨ duty.retracts r = true
  bounded : t.places r + (duty' == .carrying r).toNat ≤
      s.places r + (duty == .carrying r).toNat ∨
    (r = s.records.length ∧ r < t.records.length ∧
      t.places r + (duty' == .carrying r).toNat = s.places r + 1)
  admitted : duty'.admits r = true →
    duty.admits r = true ∨ ((duty == .carrying r) = true ∧ t.Safe r)

theorem carrying_beq (r r' : Ref) : (Duty.carrying r' == Duty.carrying r) = (r' == r) := by
  by_cases h : r' = r
  · subst h
    rw [beq_self_eq_true, beq_self_eq_true]
  · rw [beq_false_of_ne h, beq_false_of_ne (fun heq => h (Duty.carrying.inj heq))]

/-- The places of records are as they were, and the call owes no more. -/
theorem CallMoves.of_same (hplaces : t.places r = s.places r)
    (hcarries : (duty' == .carrying r) = true → (duty == .carrying r) = true)
    (hadmits : duty'.admits r = true → duty.admits r = true) : CallMoves s t duty duty' r where
  kept hpos := .inl (.inl (hplaces ▸ hpos))
  bounded := by
    refine .inl ?_
    rw [hplaces]
    cases hduty' : duty' == .carrying r with
    | false => exact Nat.le_add_right _ _
    | true => exact Nat.le_of_eq (by rw [hcarries hduty'])
  admitted h := .inl (hadmits h)

/-- The record that the call has made is in one more place, and the call does not carry it any
more. -/
theorem CallMoves.of_entered {r' : Ref} (hplaces : t.places r = s.places r + (r' == r).toNat)
    (hcarries : (duty' == .carrying r) = false) (hadmits : duty'.admits r = true → r' = r) :
    CallMoves s t (.carrying r') duty' r where
  kept hpos := .inl (.inl (by omega))
  bounded := by
    refine .inl ?_
    rw [hplaces, hcarries, carrying_beq]
    exact Nat.le_refl _
  admitted h := by
    obtain rfl := hadmits h
    rw [beq_self_eq_true, Bool.toNat_true] at hplaces
    exact .inr ⟨beq_self_eq_true _, .inl (by omega)⟩

theorem places_with_pool {pool : Pool} {n : Nat} (h : pool.holds r = s.pool.holds r + n) :
    ({ s with pool } : System α).places r = s.places r + n := by
  show s.queue.holds r + s.pumpHolds r + pool.holds r = s.places r + n
  rw [h, places]
  omega

/-- A new record is carried by the call that has made it. -/
theorem CallMoves.of_created (hplaces : t.places r = s.places r)
    (hlength : t.records.length = s.records.length + 1) :
    CallMoves s t .free (.carrying s.records.length) r where
  kept hpos := .inl (.inl (hplaces ▸ hpos))
  bounded := by
    rw [carrying_beq, hplaces]
    by_cases hr : s.records.length = r
    · subst hr
      rw [beq_self_eq_true]
      refine .inr ⟨rfl, ?_, rfl⟩
      rw [hlength]
      exact Nat.lt_succ_self _
    · rw [beq_false_of_ne hr]
      exact .inl (Nat.le_refl _)
  admitted := nofun

/-- The call offers the record that it has made to the delay queue. -/
theorem CallMoves.of_offered {r' : Ref} (hs : Numbered s)
    (hentries : t.queue.entries =
      DelayQueue.entriesWith (s.isPending r') (s.key r') r' s.queue.entries)
    (hrecords : t.records = s.records) (hpool : t.pool = s.pool) (hpump : t.pump = s.pump)
    (hcarries : (duty' == .carrying r) = false) (hadmits : duty'.admits r = true → r' = r) :
    CallMoves s t (.carrying r') duty' r := by
  obtain ⟨hge, hle, -⟩ := holds_offered hs hentries r
  have hbefore : s.places r = s.queue.holds r + s.pumpHolds r + s.pool.holds r := rfl
  have hafter : t.places r = t.queue.holds r + s.pumpHolds r + s.pool.holds r := by
    rw [places, hpool, pumpHolds, hpump]
    rfl
  refine ⟨fun hpos => .inl (.inl (by omega)), .inl ?_, fun h => ?_⟩
  · rw [hcarries, carrying_beq, Bool.toNat_false]
    omega
  · obtain rfl := hadmits h
    exact .inr ⟨beq_self_eq_true _, .of_offered hs hentries hrecords⟩

/-- The entry that a cancellation takes out of the delay queue is that of a terminal record. -/
theorem CallMoves.of_removed {r' : Ref} {k : Key} (hs : Numbered s)
    (howner : Duty.removing r' k = .free ∨ ∃ call ∈ s.calls, call.duty = .removing r' k)
    (hqueue : t.queue = (s.queue.remove k).1) (hpool : t.pool = s.pool) (hpump : t.pump = s.pump)
    (hrecords : t.records = s.records) : CallMoves s t (.removing r' k) .free r := by
  obtain hfree | ⟨call, hcall, hduty⟩ := howner
  · cases hfree
  obtain ⟨hk, hfinal⟩ := hs.removal hcall hduty
  have hle := DelayQueue.remove_holds_le s.queue k r
  have hbefore : s.places r = s.queue.holds r + s.pumpHolds r + s.pool.holds r := rfl
  have hafter : t.places r = (s.queue.remove k).1.holds r + s.pumpHolds r + s.pool.holds r := by
    rw [places, hqueue, hpool, pumpHolds, hpump]
    rfl
  refine ⟨fun hpos => ?_, .inl ?_, nofun⟩
  · by_cases hr : r' = r
    · have hnot := isPending_of_final (hr ▸ hfinal)
      exact .inl (.inr (.inr ((isPending_congr hrecords).trans hnot)))
    · have hsame : (s.queue.remove k).1.holds r = s.queue.holds r :=
        DelayQueue.remove_holds fun e he hek heq =>
          hr ((hs.entry_unique hk e he hek).symm.trans heq)
      exact .inl (.inl (by omega))
  · have hfree : (Duty.free == Duty.carrying r) = false := rfl
    rw [hfree, Bool.toNat_false]
    omega

/-- The entry that a failed submission takes out of the delay queue is one of its record. -/
theorem CallMoves.of_retracted {r' : Ref} {k : Key} (hs : Numbered s)
    (howner : Duty.retracting r' k = .free ∨ ∃ call ∈ s.calls, call.duty = .retracting r' k)
    (hqueue : t.queue = (s.queue.remove k).1) (hpool : t.pool = s.pool) (hpump : t.pump = s.pump) :
    CallMoves s t (.retracting r' k) .free r := by
  obtain hfree | ⟨call, hcall, hduty⟩ := howner
  · cases hfree
  have hfiled : 0 < s.filers r' k := by
    refine Nat.lt_of_lt_of_le (List.countP_pos_iff.mpr ⟨call, hcall, ?_⟩) (Nat.le_add_right _ _)
    rw [hduty]
    exact beq_self_eq_true (some (r', k))
  have hle := DelayQueue.remove_holds_le s.queue k r
  have hbefore : s.places r = s.queue.holds r + s.pumpHolds r + s.pool.holds r := rfl
  have hafter : t.places r = (s.queue.remove k).1.holds r + s.pumpHolds r + s.pool.holds r := by
    rw [places, hqueue, hpool, pumpHolds, hpump]
    rfl
  refine ⟨fun hpos => ?_, .inl ?_, nofun⟩
  · by_cases hr : r' = r
    · exact .inr (beq_iff_eq.mpr hr)
    · have hsame := remove_places hs hfiled hr
      exact .inl (.inl (by omega))
  · show t.places r + 0 ≤ s.places r + 0
    omega

/-- The call starts the pump, which has no record in hand yet. -/
theorem places_launched (hpump : s.pump = none) :
    ({ s with pump := some .waiting } : System α).places r = s.places r := by
  rw [places_of_none rfl, places_of_none (s := s) (by rw [hpump]; rfl)]

theorem CallMove.moves (h : CallMove s duty t duty') (hs : Numbered s)
    (howner : duty = .free ∨ ∃ call ∈ s.calls, call.duty = duty) (r : Ref) :
    CallMoves s t duty duty' r := by
  cases h with
  | quiet => exact .of_same rfl (fun h => h) (fun h => h)
  | created recurrence trigger =>
    refine .of_created rfl ?_
    rw [List.length_append, List.length_singleton]
  | carried => exact .of_same rfl (fun h => h) (fun h => h)
  | dropped => exact .of_same rfl nofun nofun
  | @executed r' choice hanswer =>
    have hholds := Pool.execute_holds s.pool r' choice r
    rw [hanswer] at hholds
    exact .of_entered (places_with_pool hholds) rfl eq_of_beq
  | @refused r' error choice hanswer =>
    have hholds := Pool.execute_holds s.pool r' choice r
    rw [hanswer] at hholds
    exact .of_same (places_with_pool (n := 0) hholds) nofun nofun
  | @unwound r' failure choice hanswer =>
    have hholds := Pool.execute_holds s.pool r' choice r
    rw [hanswer] at hholds
    exact .of_entered (places_with_pool hholds.1) rfl nofun
  | @offered r' queue needsPump hoffer =>
    obtain ⟨-, -, -, -, hentries⟩ := DelayQueue.offer_eq_some hoffer
    refine .of_offered hs hentries (by rfl) (by rfl) (by rfl) ?_ ?_
    · cases needsPump <;> rfl
    · cases needsPump <;> exact fun h => eq_of_beq h
  | launched hpump => exact .of_same (places_launched hpump) nofun (fun h => h)
  | misnamed _ => exact .of_same rfl nofun nofun
  | unlaunched _ => exact .of_same rfl nofun nofun
  | retracted => exact .of_retracted hs howner (by rfl) (by rfl) (by rfl)
  | counted _ => exact .of_same rfl nofun nofun
  | asked mayInterrupt hduty =>
    rcases hduty with ⟨rfl, -⟩ | ⟨_, _, _, rfl⟩
    · exact .of_same rfl nofun nofun
    · exact .of_same rfl nofun nofun
  | removed => exact .of_removed hs howner (by rfl) (by rfl) (by rfl) (by rfl)
  | collected => exact .of_same rfl (fun h => h) (fun h => h)
  | left _ => exact .of_same rfl nofun nofun
  | closed =>
    refine .of_same rfl ?_ ?_
    · cases s.queue.close.2 <;> nofun
    · cases s.queue.close.2 <;> nofun
  | launchedLast hpump => exact .of_same (places_launched hpump) nofun nofun
  | replacedLast hpump =>
    exact .of_same (places_launched (s := { s with queue := s.queue.releaseConsumer }) hpump)
      nofun nofun
  | drainedLast => exact .of_same rfl nofun nofun

/-! ## The owner -/

theorem OwnerMove.moves (h : OwnerMove s t) (r : Ref) : Moves s t r := by
  cases h with
  | resized size => exact .of_eq (places_with_pool (n := 0) (Pool.setCoreSize_holds s.pool size r))
  | prestarted count =>
    exact .of_eq (places_with_pool (n := 0) (Pool.prestart_holds s.pool count r))
  | refactored factory => exact .of_eq rfl

/-! ## The pool -/

/-- A worker takes nothing from elsewhere than from the run queue. -/
theorem WorkerMove.pool_holds_le (h : WorkerMove s a t) (r : Ref) :
    t.pool.holds r ≤ s.pool.holds r := by
  have hgoes : ∀ {i : Nat} {old new : WorkerPhase}, s.pool.phase? i = some old →
      t.pool = s.pool.setPhase i new → new.hand? = old.hand? ∨ new.hand? = none →
      t.pool.holds r ≤ s.pool.holds r := by
    intro i old new hphase hpool hhand
    have hholds := Pool.holds_setPhase hphase new r
    rw [← hpool] at hholds
    rcases hhand with hsame | hnone
    · rw [hsame] at hholds
      omega
    · rw [hnone] at hholds
      have hempty : ((none : Option Ref) == some r).toNat = 0 := rfl
      omega
  cases h with
  | looked hlook => exact Nat.le_of_eq (Pool.look_holds hlook r)
  | expired hexpire => exact Nat.le_of_eq (Pool.expire_holds hexpire r)
  | counted hcount => exact Nat.le_of_eq (Pool.countRun_holds hcount r)
  | @requeued i r' queue needsPump hphase _ =>
    refine hgoes hphase rfl (.inr ?_)
    cases needsPump <;> rfl
  | began hphase _ _ => exact hgoes hphase rfl (.inl rfl)
  | entered hphase _ => exact hgoes hphase rfl (.inl rfl)
  | rescheduled hphase _ _ => exact hgoes hphase rfl (.inl rfl)
  | refused hphase _ => exact hgoes hphase rfl (.inl rfl)
  | passedOver hphase _ => exact hgoes hphase rfl (.inr rfl)
  | spent hphase _ => exact hgoes hphase rfl (.inr rfl)
  | finished hphase _ => exact hgoes hphase rfl (.inr rfl)
  | gaveUp hphase => exact hgoes hphase rfl (.inr rfl)
  | launched hphase _ _ => exact hgoes hphase rfl (.inr rfl)
  | unlaunched hphase _ _ => exact hgoes hphase rfl (.inr rfl)
  | retracted hphase => exact hgoes hphase rfl (.inr rfl)
  | rejected hphase => exact hgoes hphase rfl (.inr rfl)

/-- A call hands nothing to the pool but the record that it carries. -/
theorem CallMove.pool_holds_le (h : CallMove s duty t duty') (hduty : duty ≠ .carrying r) :
    t.pool.holds r ≤ s.pool.holds r := by
  have hother : ∀ {r' choice}, Duty.carrying r' ≠ .carrying r →
      (s.pool.execute r' choice).pool.holds r = s.pool.holds r := fun hne =>
    Pool.execute_holds_other (fun heq => hne (congrArg Duty.carrying heq)) _
  cases h with
  | executed choice _ | refused choice _ | unwound choice _ => exact Nat.le_of_eq (hother hduty)
  | _ => exact Nat.le_refl _

theorem OwnerMove.pool_holds (h : OwnerMove s t) (r : Ref) : t.pool.holds r = s.pool.holds r := by
  cases h with
  | resized size => exact Pool.setCoreSize_holds s.pool size r
  | prestarted count => exact Pool.prestart_holds s.pool count r
  | refactored factory => rfl

end System

end TaskScheduler
