import TaskScheduler.Proofs.RunQueue

/-
  When records leave the delay queue.

  A record is released when the pump takes it out of the delay queue. From then on the pump has it
  in hand, or it is in the run queue, or a worker has picked it up and is not through with its body,
  until the run is over or the pump is about to put the record back. `step_released`: it comes to
  that by being taken out, and then its entry is due or the delay queue is closed (`Takes`); or a
  submission hands it over, which is then for work to be done at once.

  `Unreleased.exec`: so a record that runs once has not been released before its trigger, unless the
  delay queue was closed before.
-/
namespace TaskScheduler

/-- The pump has taken the record out of the delay queue, and is not about to put it back. -/
def PumpPhase.hasTaken (r : Ref) : PumpPhase → Bool
  | offering _ => false
  | phase => phase.record? == some r

theorem PumpPhase.record_of_hasTaken {r : Ref} {phase : PumpPhase} (h : phase.hasTaken r = true) :
    phase.record? = some r := by
  cases phase <;> first | exact eq_of_beq h | cases h

/-- The worker has picked the record up, and is not yet through with its body. -/
def WorkerPhase.hasTaken (r : Ref) : WorkerPhase → Bool
  | picked r' | begun r' | running r' => r' == r
  | _ => false

namespace System

variable {α : Type} {s s' t u : System α} {a : Action α} {r : Ref} {trigger : Instant}

/-- The pump takes the record out of the delay queue. -/
def releases (r : Ref) (s : System α) (_ : Action α) (t : System α) : Bool :=
  s.pump == some .waiting && t.pump.any (·.hasTaken r)

/-- The pump takes the record out of the delay queue, which has not been closed. -/
def releasesOpen (r : Ref) (s : System α) (a : Action α) (t : System α) : Bool :=
  !s.queue.closed && releases r s a t

/-- The record is in the run queue, or a worker has picked it up and is not yet through with its
body. -/
def HandedOver (s : System α) (r : Ref) : Prop :=
  r ∈ s.pool.queue ∨ 0 < s.pool.tally (·.hasTaken r)

/-- The record has left the delay queue, and is on its way to a run or in it. -/
def Released (s : System α) (r : Ref) : Prop :=
  s.HandedOver r ∨ s.pump.any (·.hasTaken r) = true

/-- The pump takes the record out of the delay queue, since its entry is due or the delay queue is
closed. -/
structure Takes (s t : System α) (r : Ref) : Prop where
  waiting : s.pump = some .waiting
  entry : ∃ k rest, s.queue.entries = (k, r) :: rest ∧
    (k.trigger ≤ s.now ∨ s.queue.closed = true)
  holding : ∃ early, t.pump = some (.holding r early)

theorem Takes.congr (h : Takes s t r) (hpump : u.pump = t.pump) : Takes s u r :=
  ⟨h.waiting, h.entry, h.holding.imp fun _ hholding => hpump.trans hholding⟩

theorem Takes.releases (h : Takes s t r) (a : Action α) : releases r s a t = true := by
  obtain ⟨early, hholding⟩ := h.holding
  rw [System.releases, h.waiting, hholding, Bool.and_eq_true]
  exact ⟨beq_self_eq_true _, beq_self_eq_true (some r)⟩

/-! ## Who has a record -/

theorem taken_le_hands (s : System α) (r : Ref) :
    s.pool.tally (·.hasTaken r) ≤ s.pool.hands r := by
  refine List.countP_mono_left fun w _ htaken => ?_
  cases hphase : w.phase <;> rw [hphase] at htaken <;>
    first | exact beq_iff_eq.mpr (congrArg some (eq_of_beq htaken)) | cases htaken

theorem HandedOver.held (h : s.HandedOver r) : 0 < s.pool.holds r := by
  have hholds : s.pool.holds r = s.pool.queue.count r + s.pool.hands r := rfl
  rcases h with hqueued | htaken
  · have hcount := List.count_pos_iff.mpr hqueued
    omega
  · have hle := s.taken_le_hands r
    omega

theorem Released.held (h : s.Released r) : 0 < s.pumpHolds r + s.pool.holds r := by
  rcases h with hhanded | htaken
  · have hheld := hhanded.held
    omega
  · obtain ⟨phase, hpump, htaken⟩ := (Option.any_eq_true _ _).mp htaken
    rw [pumpHolds_of_record hpump (PumpPhase.record_of_hasTaken htaken), beq_self_eq_true,
      Bool.toNat_true]
    omega

/-- A worker gets to a record through the run queue. -/
theorem WorkerMove.taken (h : WorkerMove s a t) (htaken : 0 < t.pool.tally (·.hasTaken r)) :
    s.HandedOver r := by
  have hsame : t.pool.tally (·.hasTaken r) = s.pool.tally (·.hasTaken r) → s.HandedOver r :=
    fun heq => .inr (heq ▸ htaken)
  have hgoes : ∀ {i : Nat} {old new : WorkerPhase}, s.pool.phase? i = some old →
      t.pool = s.pool.setPhase i new → (new.hasTaken r = true → old.hasTaken r = true) →
      s.HandedOver r := by
    intro i old new hphase hpool hnew
    have htally := Pool.tally_setPhase hphase new (·.hasTaken r)
    rw [← hpool] at htally
    cases hold : old.hasTaken r with
    | true => exact .inr (Pool.tally_pos hphase hold)
    | false =>
      rw [hold, Bool.eq_false_iff.mpr fun h => Bool.eq_false_iff.mp hold (hnew h)] at htally
      exact hsame htally
  cases h with
  | @looked i pool hlook =>
    obtain ⟨old, new, -, htally, hnew⟩ := Pool.look_tally hlook
    have hbalance := htally (·.hasTaken r)
    have hafter : 0 < pool.tally (·.hasTaken r) := htaken
    rcases hnew with ⟨-, hnone⟩ | ⟨r', hqueue, rfl⟩
    · have hzero : new.hasTaken r = false := by rcases hnone with rfl | rfl <;> rfl
      rw [hzero, Bool.toNat_false] at hbalance
      exact .inr (by omega)
    · by_cases hr : r' = r
      · exact .inl (by rw [hqueue, hr]; exact List.mem_cons_self)
      · have hother : (WorkerPhase.picked r').hasTaken r = false := beq_false_of_ne hr
        rw [hother, Bool.toNat_false] at hbalance
        exact .inr (by omega)
  | expired hexpire => exact hsame ((Pool.expire_tally hexpire).2 _ rfl rfl)
  | counted hcount => exact hsame ((Pool.countRun_tally hcount).2 _ (fun _ => rfl) rfl)
  | @requeued i r' queue needsPump hphase _ =>
    refine hgoes hphase rfl fun hnew => ?_
    cases needsPump <;> cases hnew
  | began hphase _ _ => exact hgoes hphase rfl fun hnew => hnew
  | entered hphase _ => exact hgoes hphase rfl fun hnew => hnew
  | passedOver hphase _ => exact hgoes hphase rfl nofun
  | spent hphase _ => exact hgoes hphase rfl nofun
  | finished hphase _ => exact hgoes hphase rfl nofun
  | rescheduled hphase _ _ => exact hgoes hphase rfl nofun
  | refused hphase _ => exact hgoes hphase rfl nofun
  | gaveUp hphase => exact hgoes hphase rfl nofun
  | launched hphase _ _ => exact hgoes hphase rfl nofun
  | unlaunched hphase _ _ => exact hgoes hphase rfl nofun
  | retracted hphase => exact hgoes hphase rfl nofun
  | rejected hphase => exact hgoes hphase rfl nofun

theorem Move.taken (h : Move s a t) (htaken : 0 < t.pool.tally (·.hasTaken r)) :
    s.HandedOver r := by
  have hcalm : ∀ {v : System α}, CallsPool s v → t.pool = v.pool → s.HandedOver r := by
    intro v hcalls hpool
    have hsame : v.pool.tally (·.hasTaken r) = s.pool.tally (·.hasTaken r) :=
      hcalls.calm _ rfl rfl rfl
    exact .inr (by rw [← hsame, ← hpool]; exact htaken)
  rcases h.kinds with ⟨u, _, _, hcall, -, ht⟩ | hpump | hworker | howner | ⟨now, rfl⟩
  · exact hcalm hcall.callsPool (by rw [ht])
  · exact hcalm hpump.callsPool rfl
  · exact hworker.taken htaken
  · exact hcalm howner.callsPool rfl
  · exact .inr htaken

/-- The pool gets a record from the pump, or from the submission that has made it. -/
theorem step_handedOver (hstep : s.step a = some s') (h : s'.HandedOver r) :
    s.HandedOver r ∨ s.OnHandoff r := by
  rcases h with hqueued | htaken
  · cases step_passage hstep with
    | kept hkept => exact .inl (.inl (hkept ▸ hqueued))
    | @entered r' hfrom _ hentered =>
      rw [hentered, List.mem_append, List.mem_singleton] at hqueued
      rcases hqueued with hbefore | rfl
      · exact .inl (.inl hbefore)
      · exact .inr hfrom
    | left _ hleft => exact .inl (.inl (hleft ▸ List.mem_cons_of_mem _ hqueued))
    | withdrew _ _ hwithdrawn =>
      rw [hwithdrawn, Pool.withdraw] at hqueued
      split at hqueued
      · exact .inl (.inl (List.mem_of_mem_erase hqueued))
      · exact .inl (.inl hqueued)
    | stranded _ _ hnone =>
      rw [hnone] at hqueued
      cases hqueued
  · obtain ⟨v, hmove, hcore⟩ := step_move hstep
    have hpool : s'.pool = v.pool := congrArg (fun w => w.pool) hcore
    exact .inl (hmove.taken (hpool ▸ htaken))

/-- The pump gets a record from the delay queue. -/
theorem PumpMove.taken (h : PumpMove s t) (htaken : t.pump.any (·.hasTaken r) = true) :
    s.pump.any (·.hasTaken r) = true ∨ Takes s t r := by
  obtain ⟨next, hnext, htaken⟩ := (Option.any_eq_true _ _).mp htaken
  have hrecord := PumpPhase.record_of_hasTaken htaken
  have hkept : ∀ {phase : PumpPhase} {r' : Ref}, s.pump = some phase → phase.record? = some r' →
      next.record? = some r' → (∀ r'', phase ≠ .offering r'') →
      s.pump.any (·.hasTaken r) = true := by
    intro phase r' hpump hphase hnext hnot
    cases hrecord.symm.trans hnext
    rw [hpump, Option.any_some]
    cases phase with
    | offering r'' => exact absurd rfl (hnot r'')
    | _ => exact beq_iff_eq.mpr hphase
  cases h with
  | took hpump hentries hdue =>
    cases hnext
    cases hrecord
    exact .inr ⟨hpump, ⟨_, _, hentries, hdue⟩, ⟨_, rfl⟩⟩
  | wentOn hpump hgoes =>
    cases hnext
    obtain ⟨r', hphase, hnext⟩ := hgoes.record
    refine .inl (hkept hpump hphase hnext ?_)
    rintro r'' rfl
    cases hgoes with
    | faulted _ hfault _ => cases hfault
  | refused choice hpump _ =>
    cases hnext
    exact .inl (hkept hpump rfl rfl nofun)
  | unwound choice hpump _ =>
    cases hnext
    exact .inl (hkept hpump rfl rfl nofun)
  | withdrew hpump =>
    cases hnext
    exact .inl (hkept hpump rfl rfl nofun)
  | noted hpump hafter =>
    cases hnext
    exact .inl (hkept hpump rfl hafter.record nofun)
  | postponed _ =>
    cases hnext
    cases htaken
  | stopped _ hstopped =>
    rcases hstopped with rfl | ⟨_, rfl⟩ <;> cases hnext <;> cases hrecord
  | _ => cases hnext <;> cases hrecord

/-- A record comes to be released when the pump takes it out of the delay queue, or when the
submission that has made it hands it over. -/
theorem step_released (hstep : s.step a = some s') (h : s'.Released r) :
    s.Released r ∨ Takes s s' r ∨
      ∃ (i : Nat) (call : Call α), s.calls[i]? = some call ∧ call.executing? = some r := by
  rcases h with hhanded | htaken
  · rcases step_handedOver hstep hhanded with hbefore | hpump | hcall
    · exact .inl (.inl hbefore)
    · refine .inl (.inr ?_)
      rw [hpump]
      exact beq_self_eq_true (some r)
    · exact .inr (.inr hcall)
  · obtain ⟨v, hmove, hcore⟩ := step_move hstep
    have hpump : s'.pump = v.pump := congrArg (fun w => w.pump) hcore
    rw [hpump] at htaken
    obtain ⟨phase, hphase, htaken'⟩ := (Option.any_eq_true _ _).mp htaken
    rcases hmove.pump_from hphase (by rintro rfl; cases htaken') with hbefore | hpumped
    · refine .inl (.inr ?_)
      rw [hbefore]
      exact htaken'
    · rcases hpumped.taken htaken with hbefore | htakes
      · exact .inl (.inr hbefore)
      · exact .inr (.inl (htakes.congr hpump))

/-- The step that makes a record does not release it. -/
theorem Reachable.made_unreleased (hs : Reachable s) (hnew : s.record? r = none)
    (hstep : s.step a = some s') : ¬s'.Released r := by
  have hnowhere := hs.unmade hnew
  have hplaces : s.places r = s.queue.holds r + s.pumpHolds r + s.pool.holds r := rfl
  intro hreleased
  rcases step_released hstep hreleased with hbefore | htakes | ⟨i, call, hcall, hr⟩
  · have hheld := hbefore.held
    omega
  · obtain ⟨k, rest, hentries, -⟩ := htakes.entry
    refine DelayQueue.holds_eq_zero_iff.mp (by omega : s.queue.holds r = 0) k ?_
    rw [hentries]
    exact List.mem_cons_self
  · have hcarried := arriving_of_executing hcall hr
    omega

/-- Nor does it put the record into the delay queue. -/
theorem Reachable.made_unqueued (hs : Reachable s) (hnew : s.record? r = none)
    (hstep : s.step a = some s') : s'.queue.holds r = 0 := by
  have hnowhere := hs.unmade hnew
  have hplaces : s.places r = s.queue.holds r + s.pumpHolds r + s.pool.holds r := rfl
  refine step_of_move (P := fun s' => s'.queue.holds r = 0) (fun _ => rfl) (fun hmove => ?_) hstep
  refine DelayQueue.holds_eq_zero_iff.mpr fun k he => ?_
  rcases hmove.entersPending _ he with hold | ⟨-, r', hpending, heq⟩
  · exact DelayQueue.holds_eq_zero_iff.mp (by omega) k hold
  · cases heq
    obtain ⟨x, hx, -⟩ := isPending_iff.mp hpending
    cases hnew.symm.trans hx

/-! ## The delay queue and the clock -/

theorem Move.closed_kept (h : Move s a t) (hclosed : s.queue.closed = true) :
    t.queue.closed = true := by
  rcases h.kinds with ⟨u, _, _, hcall, -, ht⟩ | hpump | hworker | howner | ⟨now, rfl⟩
  · rw [ht]
    cases hcall with
    | offered hoffer => exact absurd hoffer (DelayQueue.offer_ne_some hclosed)
    | removed | retracted => exact (DelayQueue.remove_entries ..).2.1.trans hclosed
    | closed => rfl
    | _ => exact hclosed
  · cases hpump with
    | returned _ => exact (DelayQueue.putBack_entries ..).2.1.trans hclosed
    | _ => exact hclosed
  · cases hworker with
    | requeued _ hoffer => exact absurd hoffer (DelayQueue.offer_ne_some hclosed)
    | retracted _ => exact (DelayQueue.remove_entries ..).2.1.trans hclosed
    | _ => exact hclosed
  · cases howner <;> exact hclosed
  · exact hclosed

/-- A delay queue that is closed stays so. -/
theorem step_closed (hstep : s.step a = some s') (hclosed : s.queue.closed = true) :
    s'.queue.closed = true :=
  step_of_move (P := fun s' => s'.queue.closed = true) (fun _ => rfl)
    (fun hmove => hmove.closed_kept hclosed) hstep

theorem step_now_le (hstep : s.step a = some s') : s.now ≤ s'.now :=
  step_of_move (P := fun s' => s.now ≤ s'.now) (fun _ => rfl) Move.now_le hstep

theorem exec_now_le {actions : List (Action α)} (hrun : s.exec actions = some t) : s.now ≤ t.now :=
  exec_keeps (P := fun t => s.now ≤ t.now)
    (fun _ hle hstep => Int.le_trans hle (step_now_le hstep)) (Int.le_refl _) hrun

/-! ## Records that run once -/

/-- The record runs once, and has not been released. -/
structure Unreleased (s : System α) (r : Ref) (trigger : Instant) : Prop where
  record : ∃ x, s.record? r = some x ∧ x.recurrence = .once ∧ x.trigger = trigger
  entry : ∀ {k}, (k, r) ∈ s.queue.entries → k.trigger = trigger
  kept : ¬s.Released r

theorem postpones_of_unreleased (h : ¬s.Released r) : postpones r s a t = false := by
  have hnot : s.pump.any (·.isPostponing r) = false := by
    refine eq_false_of_ne_true fun hpost => h (.inr ?_)
    obtain ⟨phase, hpump, hphase⟩ := (Option.any_eq_true _ _).mp hpost
    obtain ⟨backoff, rfl⟩ := PumpPhase.isPostponing_iff.mp hphase
    rw [hpump]
    exact beq_self_eq_true (some r)
  rw [postpones, hnot, Bool.and_false, Bool.false_and]

theorem Unreleased.record_kept (h : Unreleased s r trigger) (hmove : Move s a t) :
    ∃ y, t.record? r = some y ∧ y.recurrence = .once ∧ y.trigger = trigger := by
  obtain ⟨x, hx, honce, htrigger⟩ := h.record
  obtain ⟨y, hy, hkeeps⟩ := hmove.keeps.kept hx
  have hafter := hmove.trigger (postpones_of_unreleased h.kept) hx hy
  rw [honce, Recurrence.nextRun, ite_self] at hafter
  exact ⟨y, hy, hkeeps.recurrence.trans honce, hafter.trans htrigger⟩

theorem Unreleased.entry_kept (h : Unreleased s r trigger) (hmove : Move s a t) {k : Key}
    (he : (k, r) ∈ t.queue.entries) : k.trigger = trigger := by
  rcases hmove.entersPending _ he with hold | ⟨-, r', -, heq⟩
  · exact h.entry hold
  · cases heq
    obtain ⟨x, hx, -, htrigger⟩ := h.record
    rw [key_of_record hx]
    exact htrigger

theorem Unreleased.step (h : Unreleased s r trigger) (hs : Reachable s)
    (hstep : s.step a = some s') :
    trigger ≤ s.now ∨ (s.queue.closed = true ∧ Takes s s' r) ∨ Unreleased s' r trigger := by
  by_cases hreleased : s'.Released r
  · rcases step_released hstep hreleased with hbefore | htakes | ⟨i, call, hcall, hr⟩
    · exact absurd hbefore h.kept
    · obtain ⟨k, rest, hentries, hdue | hclosed⟩ := htakes.entry
      · left
        rw [← h.entry (k := k) (by rw [hentries]; exact List.mem_cons_self)]
        exact hdue
      · exact .inr (.inl ⟨hclosed, htakes⟩)
    · obtain ⟨x, hx, -, htrigger⟩ := h.record
      obtain ⟨x', hx', -, hdue⟩ := hs.executing hcall hr
      obtain rfl : x = x' := Option.some.inj (hx.symm.trans hx')
      exact .inl (htrigger ▸ hdue)
  · refine .inr (.inr ⟨?_, ?_, hreleased⟩)
    · exact step_of_move (P := fun s' => ∃ y, s'.record? r = some y ∧ y.recurrence = .once ∧
        y.trigger = trigger) (fun _ => rfl) h.record_kept hstep
    · exact step_of_move (P := fun s' => ∀ {k}, (k, r) ∈ s'.queue.entries → k.trigger = trigger)
        (fun _ => rfl) (fun hmove => h.entry_kept hmove) hstep

theorem releasesOpen_of_closed (h : s.queue.closed = true) : releasesOpen r s a t = false := by
  rw [releasesOpen, h, Bool.not_true, Bool.false_and]

/-- From an open delay queue the pump releases nothing any more once it is closed. -/
theorem occurrences_releasesOpen (h : s.queue.closed = true) (actions : List (Action α)) :
    s.occurrences (releasesOpen r) actions = 0 :=
  occurrences_eq_zero (P := fun s => s.queue.closed = true)
    (fun hclosed hstep => ⟨releasesOpen_of_closed hclosed, step_closed hstep hclosed⟩) h actions

/-- A record that runs once is not released before its trigger, unless the delay queue was closed
before. -/
theorem Unreleased.exec {actions : List (Action α)} (h : Unreleased s r trigger)
    (hs : Reachable s) (hrun : s.exec actions = some t) :
    trigger ≤ t.now ∨ Unreleased t r trigger ∨
      (0 < s.occurrences (releases r) actions ∧ s.occurrences (releasesOpen r) actions = 0) := by
  induction actions generalizing s with
  | nil =>
    cases hrun
    exact .inr (.inl h)
  | cons a rest ih =>
    obtain ⟨s', hstep, hrest⟩ := exec_cons hrun
    rw [occurrences_cons hstep, occurrences_cons hstep]
    rcases h.step hs hstep with hdue | ⟨hclosed, htakes⟩ | hkept
    · exact .inl (Int.le_trans hdue (exec_now_le hrun))
    · refine .inr (.inr ⟨?_, ?_⟩)
      · rw [htakes.releases, Bool.toNat_true]
        omega
      · rw [releasesOpen_of_closed hclosed, occurrences_releasesOpen (step_closed hstep hclosed)]
        rfl
    · refine (ih hkept (hs.step a hstep) hrest).imp_right (.imp_right fun ⟨hpos, hnone⟩ => ?_)
      have hnot : releases r s a s' = false := by
        rw [System.releases, eq_false_of_ne_true fun htaken => hkept.kept (.inr htaken),
          Bool.and_false]
      rw [hnone, releasesOpen, hnot, Bool.and_false]
      exact ⟨by omega, rfl⟩

end System

end TaskScheduler
