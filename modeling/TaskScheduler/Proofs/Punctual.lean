import TaskScheduler.Proofs.FixedRate
import TaskScheduler.Proofs.Release

/-
  Periodic tasks are released on time.

  `Timely`: the delay queue knows the task by its present trigger, and once it is released the
  trigger has come. Every step keeps this (`Timely.step`), or the task comes to its end: the delay
  queue has been closed, and the pump gives up what it takes out of it (`Doomed`).

  What carries this is that the task is in one place at a time (`Tame`). A panic that goes through a
  hand-off breaks it for a while: the record is in the run queue, and the pump is still to take it
  out. If a worker is faster (`takesUpFaulted`), the hand-off has not failed though the pump takes
  it to have.
-/
namespace TaskScheduler

/-- A panic has gone through the hand-off of the record. -/
def PumpPhase.isFaulted (r : Ref) : PumpPhase → Bool
  | faulted r' _ => r' == r
  | _ => false

/-- The pump is about to hand the record to the pool, now or at its trigger. -/
def PumpPhase.handsOver (r : Ref) : PumpPhase → Bool
  | handing r' | pausing r' _ => r' == r
  | _ => false

namespace System

variable {α : Type} {s s' t : System α} {a : Action α} {r : Ref} {x y : Record α}

/-- A worker picks the record up after a panic has gone through its hand-off, and before the pump
has taken it out of the run queue. -/
def takesUpFaulted (r : Ref) (s : System α) (a : Action α) (t : System α) : Bool :=
  s.pump.any (·.isFaulted r) && picksUp r s a t

/-! ## One place at a time -/

/-- A panic has gone through the hand-off of the record, which is in the run queue. -/
structure Dangling (s : System α) (r : Ref) : Prop where
  faulted : ∃ failure, s.pump = some (.faulted r failure)
  queued : r ∈ s.pool.queue
  bounded : s.places r + s.arriving r ≤ 2

/-- The record is in one place at most, but for a hand-off that a panic has gone through. -/
def Tame (s : System α) (r : Ref) : Prop := Sole s r ∨ Dangling s r

theorem Dangling.alone (h : Dangling s r) :
    s.queue.holds r = 0 ∧ s.pool.queue.count r = 1 ∧ s.pool.hands r = 0 ∧ s.arriving r = 0 := by
  obtain ⟨failure, hpump⟩ := h.faulted
  have hplaces := places_of_record hpump rfl r
  have hcount := List.count_pos_iff.mpr h.queued
  have hbound := h.bounded
  have hholds : s.pool.holds r = s.pool.queue.count r + s.pool.hands r := rfl
  rw [beq_self_eq_true, Bool.toNat_true] at hplaces
  omega

theorem Tame.sole (h : Tame s r) (hpump : s.pump.any (·.isFaulted r) = false) : Sole s r := by
  refine h.resolve_right fun hdangling => ?_
  obtain ⟨failure, hfaulted⟩ := hdangling.faulted
  rw [hfaulted, Option.any_some, PumpPhase.isFaulted, beq_self_eq_true] at hpump
  cases hpump

/-- A record that a worker has in hand is in no other place. -/
theorem Tame.sole_of_hands (h : Tame s r) (hhands : 0 < s.pool.hands r) : Sole s r := by
  refine h.resolve_right fun hdangling => ?_
  have halone := hdangling.alone
  omega

theorem PumpMove.after_fault {failure : Failure} (h : PumpMove s t)
    (hpump : s.pump = some (.faulted r failure)) :
    t.pump = some (.withdrawn r failure) ∧ t.pool = (s.pool.withdraw r).1 ∧ t.queue = s.queue := by
  cases h with
  | withdrew hfaulted =>
    cases hpump.symm.trans hfaulted
    exact ⟨rfl, rfl, rfl⟩
  | wentOn hphase hgoes =>
    cases hpump.symm.trans hphase
    cases hgoes with
    | faulted _ hfault _ => cases hfault
  | passedOver hphase _ hlooks _ =>
    cases hpump.symm.trans hphase
    cases hlooks
  | _ => cases hpump.symm.trans ‹s.pump = some _›

/-- The pump has taken the record out of the run queue. -/
theorem Dangling.withdrawn (h : Dangling s r) (hmove : PumpMove s t) : Sole t r := by
  obtain ⟨failure, hpump⟩ := h.faulted
  obtain ⟨hnext, hpool, hqueue⟩ := hmove.after_fault hpump
  obtain ⟨hholds, hcount, hhands, harriving⟩ := h.alone
  have hzero : t.pool.holds r = 0 := by
    rw [hpool, Pool.withdraw, if_pos (List.contains_iff_mem.mpr h.queued)]
    show (s.pool.queue.erase r).count r + s.pool.hands r = 0
    rw [List.count_erase_self]
    omega
  have hcalls : t.arriving r = s.arriving r := owing_congr hmove.calls _
  have hplaces := places_of_record hnext rfl r
  rw [beq_self_eq_true, Bool.toNat_true, hqueue] at hplaces
  show t.places r + t.arriving r ≤ 1
  omega

theorem Dangling.move (h : Dangling s r) (hs : Reachable s) (hmove : Move s a t) :
    Sole t r ∨ (t.pump = s.pump ∧ t.places r + t.arriving r ≤ 2) := by
  obtain ⟨failure, hpump⟩ := h.faulted
  have hkept : t.pump = s.pump → t.pump = s.pump ∧ t.places r + t.arriving r ≤ 2 := by
    intro hsame
    refine ⟨hsame, ?_⟩
    have hbound := h.bounded
    rcases (hmove.passes hs.numbered hs.attended r).bounded with hle | ⟨-, ⟨hnew, -⟩ | hdoubles⟩
    · omega
    · have hplaces := places_of_record hpump rfl r
      rw [beq_self_eq_true, Bool.toNat_true] at hplaces
      exact absurd hnew (Nat.ne_of_lt ((hs.held r).known (.inl (by omega))))
    · cases hpump.symm.trans hdoubles.handing
  have hothers : a.isPump = false → t.pump = s.pump :=
    fun ha => hmove.pump_kept ha (by rw [hpump]; nofun)
  cases hmove with
  | pumped hmove | pumpIdled hmove | pumpFaulted hmove => exact .inl (h.withdrawn hmove)
  | worked hworker => exact .inr (hkept (hothers (by cases hworker <;> rfl)))
  | declined hdeclined => exact .inr (hkept rfl)
  | _ => exact .inr (hkept (hothers rfl))

theorem Tame.step (h : Tame s r) (hs : Reachable s) (hstep : s.step a = some s')
    (hnot : takesUpFaulted r s a s' = false) : Tame s' r := by
  obtain ⟨t, hmove, hcore⟩ := step_move hstep
  have hpump : s'.pump = t.pump := congrArg (fun w => w.pump) hcore
  have hpool : s'.pool = t.pool := congrArg (fun w => w.pool) hcore
  have hplaces : s'.places r + s'.arriving r = t.places r + t.arriving r :=
    congrArg (fun w => w.places r + w.arriving r) hcore
  rcases h with hsole | hdangling
  · have hpasses := hmove.passes hs.numbered hs.attended r
    by_cases hdoubles : Doubles s t r
    · obtain ⟨failure, -, hfaulted⟩ := hdoubles.faulted
      refine .inr ⟨⟨failure, hpump.trans hfaulted⟩, hpool ▸ hdoubles.queued, ?_⟩
      have hone : s.places r + s.arriving r ≤ 1 := hsole
      rcases hpasses.bounded with hle | ⟨hmore, -⟩ <;> omega
    · exact .inl (of_core (P := fun s => Sole s r) (fun _ => rfl) hcore
        (hsole.move (hs.held r) hpasses hdoubles))
  · rcases hdangling.move hs hmove with hsole | ⟨hsame, hbound⟩
    · exact .inl (of_core (P := fun s => Sole s r) (fun _ => rfl) hcore hsole)
    · obtain ⟨failure, hfaulted⟩ := hdangling.faulted
      have hafter : s'.pump = some (.faulted r failure) := (hpump.trans hsame).trans hfaulted
      refine .inr ⟨⟨failure, hafter⟩, ?_, hplaces ▸ hbound⟩
      cases step_passage hstep with
      | kept hkept => exact hkept ▸ hdangling.queued
      | entered _ _ hentered =>
        rw [hentered]
        exact List.mem_append_left _ hdangling.queued
      | @left r' hpicked hleft =>
        have hqueued := hdangling.queued
        rw [hleft] at hqueued
        rcases List.mem_cons.mp hqueued with rfl | hrest
        · rw [takesUpFaulted, hfaulted, hpicked, Option.any_some, PumpPhase.isFaulted,
            beq_self_eq_true] at hnot
          cases hnot
        · exact hrest
      | withdrew _ hwithdrawn _ => cases hafter.symm.trans hwithdrawn
      | stranded hstopping _ _ => cases hfaulted.symm.trans hstopping

/-! ## Tasks that are not started any more -/

/-- A task that repeats is handed over by the pump, and not by a submission. -/
theorem Reachable.not_executing (hs : Reachable s) (hrepeats : s.repeats r = true) {i : Nat}
    {call : Call α} (hcall : s.calls[i]? = some call) : call.executing? ≠ some r := by
  intro hr
  obtain ⟨x, hx, honce, -⟩ := hs.executing hcall hr
  rw [repeats_of_record hx, Record.repeats, honce] at hrepeats
  cases hrepeats

theorem step_repeats (hstep : s.step a = some s') (h : s.repeats r = true) :
    s'.repeats r = true := by
  obtain ⟨x, hx, -⟩ := (Option.any_eq_true _ _).mp h
  rw [step_repeats_eq hstep hx, h]

/-- The service drains, and the task has not been handed over. -/
structure Doomed (s : System α) (r : Ref) : Prop where
  closed : s.queue.closed = true
  repeats : s.repeats r = true
  outside : ¬s.HandedOver r
  pump : s.pump.any (·.handsOver r) = false

/-- While the service drains, the pump decides to hand no task over that repeats. -/
theorem PumpMove.not_handsOver (h : PumpMove s t) (hclosed : s.queue.closed = true)
    (hrepeats : s.repeats r = true) (hs : s.pump.any (·.handsOver r) = false) :
    t.pump.any (·.handsOver r) = false := by
  cases h with
  | wentOn hpump hgoes =>
    rw [hpump, Option.any_some] at hs
    cases hgoes with
    | @decided r' early =>
      rw [Option.any_some, pumpDecide, hclosed, Bool.or_true, Bool.true_and]
      by_cases hr : r' = r
      · rw [hr, hrepeats]
        rfl
      · have hother : ∀ wakeAt, (PumpPhase.pausing r' wakeAt).handsOver r = false :=
          fun _ => beq_false_of_ne hr
        have hother' : (PumpPhase.handing r').handsOver r = false := beq_false_of_ne hr
        split
        · rfl
        · split
          · rfl
          · split
            · exact hother _
            · exact hother'
    | resumed _ => exact hs
    | _ => rfl
  | noted _ hafter => cases hafter <;> rfl
  | stopped _ hnext => rcases hnext with rfl | ⟨_, rfl⟩ <;> rfl
  | _ => rfl

theorem Doomed.step (h : Doomed s r) (hs : Reachable s) (hstep : s.step a = some s') :
    Doomed s' r where
  closed := step_closed hstep h.closed
  repeats := step_repeats hstep h.repeats
  outside := by
    intro hhanded
    rcases step_handedOver hstep hhanded with hbefore | hpump | ⟨i, call, hcall, hr⟩
    · exact h.outside hbefore
    · have hnot := h.pump
      rw [hpump, Option.any_some, PumpPhase.handsOver, beq_self_eq_true] at hnot
      cases hnot
    · exact hs.not_executing h.repeats hcall hr
  pump := by
    refine eq_false_of_ne_true fun hhands => ?_
    obtain ⟨t, hmove, hcore⟩ := step_move hstep
    have hpump : s'.pump = t.pump := congrArg (fun w => w.pump) hcore
    rw [hpump] at hhands
    obtain ⟨phase, hphase, hhands'⟩ := (Option.any_eq_true _ _).mp hhands
    rcases hmove.pump_from hphase (by rintro rfl; cases hhands') with hbefore | hpumped
    · have hnot := h.pump
      rw [hbefore, Option.any_some, hhands'] at hnot
      cases hnot
    · rw [hpumped.not_handsOver h.closed h.repeats h.pump] at hhands
      cases hhands

/-- The body of the task is not started any more: the task has come to its end, or it is going to
be given up. -/
def Ended (s : System α) (r : Ref) : Prop :=
  (s.isFinal r = true ∧ s.bodies r = 0) ∨ Doomed s r

theorem begun_of_startsBody (h : startsBody r s a t = true) :
    ∃ i, s.pool.phase? i = some (.begun r) := by
  cases a with
  | worker i =>
    rw [startsBody, Bool.and_eq_true] at h
    exact ⟨i, eq_of_beq h.1⟩
  | _ => cases h

theorem handedOver_of_startsBody (h : startsBody r s a t = true) : s.HandedOver r := by
  obtain ⟨i, hphase⟩ := begun_of_startsBody h
  exact .inr (Pool.tally_pos hphase (beq_self_eq_true r))

theorem Ended.not_starts (h : Ended s r) : startsBody r s a t = false := by
  rcases h with ⟨-, hbodies⟩ | hdoomed
  · exact startsBody_of_bodies hbodies
  · exact eq_false_of_ne_true fun hstarts => hdoomed.outside (handedOver_of_startsBody hstarts)

theorem Ended.step (h : Ended s r) (hs : Reachable s) (hstep : s.step a = some s') :
    Ended s' r := by
  refine h.imp (fun ⟨hfinal, hbodies⟩ => ?_) fun hdoomed => hdoomed.step hs hstep
  refine step_of_move (P := fun s' => s'.isFinal r = true ∧ s'.bodies r = 0) (fun _ => rfl) ?_ hstep
  intro t hmove
  refine ⟨hmove.keeps.isFinal hfinal, Nat.eq_zero_of_le_zero ?_⟩
  exact hbodies ▸ hmove.bodies_le (isPending_of_final hfinal)

theorem Ended.exec {actions : List (Action α)} (h : Ended s r) (hs : Reachable s)
    (hrun : s.exec actions = some t) : Ended t r := by
  have hkept : Reachable t ∧ Ended t r := by
    refine exec_keeps (P := fun s => Reachable s ∧ Ended s r) ?_ ⟨hs, h⟩ hrun
    rintro s s' a - ⟨hs, h⟩ hstep
    exact ⟨hs.step a hstep, h.step hs hstep⟩
  exact hkept.2

/-! ## Triggers that have come -/

/-- The delay queue knows the record by its present key, and if it is released its trigger has
come. -/
structure OnTime (s : System α) (r : Ref) : Prop where
  entry : ∀ {k}, (k, r) ∈ s.queue.entries → k = s.key r
  due : s.Released r → (s.key r).trigger ≤ s.now

/-- A task that repeats, is in one place at a time, and is released on time. -/
structure Timely (s : System α) (r : Ref) : Prop where
  reachable : Reachable s
  repeats : s.repeats r = true
  tame : Tame s r
  onTime : OnTime s r

theorem OnTime.of_away (hqueue : s.queue.holds r = 0) (hnot : ¬s.Released r) : OnTime s r where
  entry he := absurd he (DelayQueue.holds_eq_zero_iff.mp hqueue _)
  due h := absurd h hnot

/-- A record that has just been put off is in the hand of the pump, which is to put it back. -/
theorem OnTime.of_postponed (h : Tame s' r) (hpost : postpones r s a s' = true) : OnTime s' r := by
  rw [postpones, Bool.and_eq_true] at hpost
  have hpump : s'.pump = some (.offering r) := eq_of_beq hpost.2
  have hsole : s'.places r + s'.arriving r ≤ 1 := h.sole (by rw [hpump]; rfl)
  have hplaces := places_of_record hpump rfl r
  rw [beq_self_eq_true, Bool.toNat_true] at hplaces
  refine .of_away (by omega) ?_
  rintro (hhanded | htaken)
  · have hheld := hhanded.held
    omega
  · rw [hpump] at htaken
    cases htaken

/-- A worker whose body has ended well is to put the record back, or is through with it. -/
theorem Tame.away_after_run (h : Tame s r) (hmove : Move s a t) (hends : endsWell r s a t = true) :
    t.queue.holds r = 0 ∧ ¬t.Released r := by
  have hleaves : ∀ {i : Nat} {new : WorkerPhase}, s.pool.phase? i = some (.running r) →
      t.pool = s.pool.setPhase i new → new.hasTaken r = false → t.queue = s.queue →
      t.pump = s.pump → t.queue.holds r = 0 ∧ ¬t.Released r := by
    intro i new hphase hpool hnew hqueue hpump
    have hhands : 0 < s.pool.hands r := Pool.tally_pos hphase (beq_self_eq_true (some r))
    have hsole : s.queue.holds r + s.pumpHolds r + (s.pool.queue.count r + s.pool.hands r) +
      s.arriving r ≤ 1 := h.sole_of_hands hhands
    have htally := Pool.tally_setPhase hphase new (·.hasTaken r)
    have hle := s.taken_le_hands r
    have hold : (WorkerPhase.running r).hasTaken r = true := beq_self_eq_true r
    rw [← hpool, hnew, hold, Bool.toNat_true, Bool.toNat_false] at htally
    refine ⟨by rw [hqueue]; omega, ?_⟩
    rintro ((hqueued | htaken) | htaken)
    · rw [hpool] at hqueued
      have hcount : 0 < s.pool.queue.count r := List.count_pos_iff.mpr hqueued
      omega
    · omega
    · rw [hpump] at htaken
      obtain ⟨phase, hphase, htaken⟩ := (Option.any_eq_true _ _).mp htaken
      exact pump_record_ne (by omega) hphase (PumpPhase.record_of_hasTaken htaken)
  cases a with
  | bodyEnds i result =>
    rw [endsWell, Bool.and_eq_true] at hends
    have hrunning : s.pool.phase? i = some (.running r) := eq_of_beq hends.1
    cases hmove with
    | worked hworker =>
      cases hworker with
      | finished hphase _ => exact hleaves hrunning rfl rfl rfl rfl
      | rescheduled hphase _ _ => exact hleaves hrunning rfl rfl rfl rfl
    | declined hdeclined => rcases hdeclined with heq | ⟨operation, heq⟩ <;> cases heq
  | _ => cases hends

/-- The pump takes a task out of the delay queue that is closed. -/
theorem Doomed.of_taken (h : Timely s r) (hstep : s.step a = some s') (htakes : Takes s s' r)
    (hclosed : s.queue.closed = true) : Doomed s' r where
  closed := step_closed hstep hclosed
  repeats := step_repeats hstep h.repeats
  outside := by
    obtain ⟨k, rest, hentries, -⟩ := htakes.entry
    have hqueued : 0 < s.queue.holds r := by
      refine List.countP_pos_iff.mpr ⟨(k, r), ?_, beq_self_eq_true r⟩
      rw [hentries]
      exact List.mem_cons_self
    have hsole : s.queue.holds r + s.pumpHolds r + s.pool.holds r + s.arriving r ≤ 1 :=
      h.tame.sole (by rw [htakes.waiting]; rfl)
    intro hhanded
    rcases step_handedOver hstep hhanded with hbefore | hpump | ⟨i, call, hcall, hr⟩
    · have hheld := hbefore.held
      omega
    · cases htakes.waiting.symm.trans hpump
    · exact h.reachable.not_executing h.repeats hcall hr
  pump := by
    obtain ⟨early, hholding⟩ := htakes.holding
    rw [hholding]
    rfl

/-- A step that does not move the trigger. -/
theorem Timely.key_kept (h : Timely s r) (hstep : s.step a = some s') (hkey : s'.key r = s.key r) :
    OnTime s' r ∨ Doomed s' r := by
  have hentry : ∀ {k}, (k, r) ∈ s'.queue.entries → k = s'.key r := by
    rw [hkey]
    refine step_of_move (P := fun s' => ∀ {k}, (k, r) ∈ s'.queue.entries → k = s.key r)
      (fun _ => rfl) (fun hmove k he => ?_) hstep
    rcases hmove.entersPending _ he with hold | ⟨-, r', -, heq⟩
    · exact h.onTime.entry hold
    · cases heq
      rfl
  have hlater : (s.key r).trigger ≤ s.now → (s'.key r).trigger ≤ s'.now := fun hdue =>
    hkey ▸ Int.le_trans hdue (step_now_le hstep)
  by_cases hreleased : s'.Released r
  · rcases step_released hstep hreleased with hbefore | htakes | ⟨i, call, hcall, hr⟩
    · exact .inl ⟨hentry, fun _ => hlater (h.onTime.due hbefore)⟩
    · obtain ⟨k, rest, hentries, hdue | hclosed⟩ := htakes.entry
      · have hk : k = s.key r := h.onTime.entry (by rw [hentries]; exact List.mem_cons_self)
        exact .inl ⟨hentry, fun _ => hlater (hk ▸ hdue)⟩
      · exact .inr (.of_taken h hstep htakes hclosed)
    · exact absurd hr (h.reachable.not_executing h.repeats hcall)
  · exact .inl ⟨hentry, fun hnow => absurd hnow hreleased⟩

theorem Timely.step (h : Timely s r) (hstep : s.step a = some s')
    (hnot : takesUpFaulted r s a s' = false) : Timely s' r ∨ Ended s' r := by
  have htame := h.tame.step h.reachable hstep hnot
  have hafter : OnTime s' r ∨ Doomed s' r := by
    obtain ⟨t, hmove, hcore⟩ := step_move hstep
    have hpump : s'.pump = t.pump := congrArg (fun w => w.pump) hcore
    cases hpost : postpones r s a s' with
    | true => exact .inl (.of_postponed htame hpost)
    | false =>
      cases hends : endsWell r s a t with
      | true =>
        obtain ⟨hqueue, hreleased⟩ := h.tame.away_after_run hmove hends
        have haway := of_core (P := fun s => s.queue.holds r = 0 ∧ ¬s.Released r) (fun _ => rfl)
          hcore ⟨hqueue, hreleased⟩
        exact .inl (.of_away haway.1 haway.2)
      | false =>
        refine h.key_kept hstep ?_
        rw [postpones, hpump] at hpost
        obtain ⟨x, hx, -⟩ := (Option.any_eq_true _ _).mp h.repeats
        obtain ⟨y, hy, -⟩ := hmove.keeps.kept hx
        exact of_core (P := fun s' => s'.key r = s.key r) (fun _ => rfl) hcore
          (by rw [key_of_record hy, key_of_record hx, hmove.key hpost hends hx hy])
  exact hafter.imp (fun honTime =>
    ⟨h.reachable.step a hstep, step_repeats hstep h.repeats, htame, honTime⟩) .inr

end System

end TaskScheduler
