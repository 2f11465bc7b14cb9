import TaskScheduler.Proofs.Evolution

/-
  Who moves the trigger of a record.

  The trigger is what the delay queue sorts a record by, together with its number. It is moved by a
  run that has ended well, and by the pump that puts a record off after a failed hand-off.
  `Move.trigger`: by nothing else.
-/
namespace TaskScheduler

/-- The pump is about to put the record off. -/
def PumpPhase.isPostponing (r : Ref) : PumpPhase → Bool
  | postponing r' _ => r' == r
  | _ => false

theorem PumpPhase.isPostponing_iff {phase : PumpPhase} {r : Ref} :
    phase.isPostponing r = true ↔ ∃ backoff, phase = .postponing r backoff := by
  cases phase with
  | postponing r' backoff => simp [isPostponing]
  | _ => simp [isPostponing]

namespace Record

variable {α : Type}

theorem giveUp_trigger (a : Record α) : a.giveUp.1.trigger = a.trigger := by
  unfold giveUp
  split <;> rfl

theorem reject_trigger (a : Record α) (reason : String) :
    (a.reject reason).1.trigger = a.trigger := by
  unfold reject
  split <;> rfl

theorem cancel_trigger (a : Record α) (mayInterrupt : Bool) :
    (a.cancel mayInterrupt).1.trigger = a.trigger := by
  unfold cancel
  split
  · rfl
  · split <;> rfl
  · rfl

theorem enterBody_trigger (a : Record α) : a.enterBody.1.trigger = a.trigger := by
  unfold enterBody
  split <;> rfl

theorem postpone_of_not_pending {a : Record α} (h : a.state ≠ .pending) (trigger : Instant) :
    a.postpone trigger = a := by
  unfold postpone
  split
  next hpending => exact absurd hpending h
  next => rfl

theorem complete_spent_trigger (a : Record α) (last now : Instant) :
    (a.complete last now .spent).1.trigger = a.trigger := by
  unfold complete
  split <;> rfl

/-- The trigger is moved at the end of a run that returned, if the record has not been cancelled
meanwhile. That of a record which does not repeat is moved to where it is. -/
theorem complete_trigger (a : Record α) (last now : Instant) (result : Except Failure α) :
    (a.complete last now (.ofExcept result)).1.trigger =
      if result.isOk && a.state == .running then a.recurrence.nextRun last a.trigger now
      else a.trigger := by
  unfold complete
  cases result with
  | error failure =>
    split <;> rfl
  | ok value =>
    split
    next hstate =>
      rw [hstate]
      simp only [BodyResult.ofExcept]
      split
      next => rfl
      next honce =>
        cases hrec : a.recurrence with
        | once => rfl
        | fixedRate period => exact absurd (by rw [repeats, hrec]; rfl) honce
        | fixedDelay period => exact absurd (by rw [repeats, hrec]; rfl) honce
    next hstate => rw [beq_false_of_ne hstate, Bool.and_false, if_neg Bool.false_ne_true]

end Record

namespace System

variable {α : Type} {s s' t : System α} {a : Action α} {r : Ref} {x y : Record α}

/-- The body of the record has returned, and the record has not been cancelled meanwhile. -/
def endsWell (r : Ref) (s : System α) (a : Action α) (_ : System α) : Bool :=
  match a with
  | .bodyEnds i result =>
    s.pool.phase? i == some (.running r) && (result.isOk && s.state? r == some .running)
  | _ => false

/-- The pump has put the record off, which waits, after a failed hand-off. -/
def postpones (r : Ref) (s : System α) (_ : Action α) (t : System α) : Bool :=
  s.isPending r && s.pump.any (·.isPostponing r) && t.pump == some (.offering r)

/-- The trigger of the record has not been moved. -/
def SameTrigger (a b : Record α) : Prop := b.trigger = a.trigger

theorem Evolves.sameTrigger (h : Evolves SameTrigger s t) (hx : s.record? r = some x)
    (hy : t.record? r = some y) : y.trigger = x.trigger := by
  obtain ⟨y', hy', hsame⟩ := h.kept hx
  rw [hy] at hy'
  cases hy'
  exact hsame

theorem CallMove.sameTrigger {duty duty' : Duty} (h : CallMove s duty t duty') :
    Evolves SameTrigger s t := by
  have hrefl : ∀ x : Record α, SameTrigger x x := fun _ => rfl
  cases h with
  | created recurrence trigger => exact .of_append rfl rfl hrefl ⟨rfl, rfl, rfl, rfl, rfl⟩
  | asked mayInterrupt _ =>
    exact .of_modify rfl rfl hrefl fun x _ => x.cancel_trigger mayInterrupt
  | collected => exact .of_modify rfl rfl hrefl fun _ _ => rfl
  | _ => exact .of_records rfl rfl hrefl

theorem PumpMove.trigger (h : PumpMove s t) (hnot : postpones r s a t = false)
    (hx : s.record? r = some x) (hy : t.record? r = some y) : y.trigger = x.trigger := by
  have hrefl : ∀ x : Record α, SameTrigger x x := fun _ => rfl
  have hsame : Evolves SameTrigger s t → y.trigger = x.trigger := fun h => h.sameTrigger hx hy
  cases h with
  | @postponed r' backoff hpump =>
    rw [record?_of_modify rfl] at hy
    split at hy
    next hr =>
      subst hr
      rw [hx] at hy
      cases hy
      -- It is put off only if it waits.
      refine congrArg Record.trigger (Record.postpone_of_not_pending (fun hstate => ?_) _)
      rw [postpones, isPending_iff.mpr ⟨x, hx, hstate⟩, hpump] at hnot
      simp [PumpPhase.isPostponing] at hnot
    next =>
      rw [hx] at hy
      cases hy
      rfl
  | gaveUp _ =>
    exact hsame (.of_modify rfl rfl hrefl fun x _ => x.giveUp_trigger)
  | noted _ _ => exact hsame (.of_modify rfl rfl hrefl fun _ _ => rfl)
  | rejected _ =>
    exact hsame (.of_modify rfl rfl hrefl fun x _ => x.reject_trigger _)
  | stopped _ =>
    exact hsame (.of_afterShutdown rfl rfl hrefl Record.reject_trigger)
  | _ => exact hsame (.of_records rfl rfl hrefl)

/-- The end of a body moves the trigger of its record, if it moves any. -/
theorem trigger_of_bodyEnds {i : Nat} {r' : Ref} {result : Except Failure α}
    (hphase : s.pool.phase? i = some (.running r'))
    (ht : t.records = s.records.modify r' fun record =>
      (record.complete s.clockEnd s.now (.ofExcept result)).1)
    (hx : s.record? r = some x) (hy : t.record? r = some y) :
    y.trigger = if endsWell r s (.bodyEnds i result) t then
      x.recurrence.nextRun s.clockEnd x.trigger s.now else x.trigger := by
  rw [record?_of_modify ht] at hy
  rw [endsWell, hphase]
  split at hy
  next hr =>
    subst hr
    rw [hx] at hy
    cases hy
    rw [x.complete_trigger, beq_self_eq_true, Bool.true_and, state?, hx]
    rfl
  next hr =>
    have hother : (some (WorkerPhase.running r') == some (.running r)) = false :=
      beq_false_of_ne fun heq => hr (WorkerPhase.running.inj (Option.some.inj heq))
    rw [hx] at hy
    cases hy
    rw [hother, Bool.false_and, if_neg Bool.false_ne_true]

theorem WorkerMove.trigger (h : WorkerMove s a t) (hx : s.record? r = some x)
    (hy : t.record? r = some y) :
    y.trigger = if endsWell r s a t then x.recurrence.nextRun s.clockEnd x.trigger s.now
      else x.trigger := by
  have hrefl : ∀ x : Record α, SameTrigger x x := fun _ => rfl
  have hsame : Evolves SameTrigger s t → y.trigger = x.trigger := fun h => h.sameTrigger hx hy
  cases h with
  | finished hphase _ => exact trigger_of_bodyEnds hphase rfl hx hy
  | rescheduled hphase _ _ => exact trigger_of_bodyEnds hphase rfl hx hy
  | began _ _ _ => exact hsame (.of_modify rfl rfl hrefl fun _ _ => rfl)
  | entered _ _ =>
    exact hsame (.of_modify rfl rfl hrefl fun x _ => x.enterBody_trigger)
  | spent _ _ =>
    refine hsame (.of_modify rfl rfl hrefl fun x _ => ?_)
    exact (x.enterBody.1.complete_spent_trigger _ _).trans x.enterBody_trigger
  | gaveUp _ =>
    exact hsame (.of_modify rfl rfl hrefl fun x _ => x.giveUp_trigger)
  | rejected _ =>
    exact hsame (.of_modify rfl rfl hrefl fun x _ => x.reject_trigger _)
  | _ => exact hsame (.of_records rfl rfl hrefl)

/-- The trigger of a record is moved by a run that has ended well, to where its recurrence says, and
by the pump that puts it off. -/
theorem Move.trigger (h : Move s a t) (hnot : postpones r s a t = false)
    (hx : s.record? r = some x) (hy : t.record? r = some y) :
    y.trigger = if endsWell r s a t then x.recurrence.nextRun s.clockEnd x.trigger s.now
      else x.trigger := by
  have hrefl : ∀ x : Record α, SameTrigger x x := fun _ => rfl
  have hsame : Evolves SameTrigger s t → y.trigger = x.trigger := fun h => h.sameTrigger hx hy
  cases h with
  | begun hmove => exact hmove.sameTrigger.sameTrigger hx hy
  | called _ hmove | callRefused _ hmove => exact hmove.sameTrigger.sameTrigger hx hy
  | pumped hmove | pumpIdled hmove | pumpFaulted hmove => exact hmove.trigger hnot hx hy
  | worked hmove => exact hmove.trigger hx hy
  | declined hdeclined =>
    rcases hdeclined with rfl | ⟨operation, rfl⟩ <;>
      exact hsame (.of_records rfl rfl hrefl)
  | _ => exact hsame (.of_records rfl rfl hrefl)

theorem step_trigger (hstep : s.step a = some s') (hnot : postpones r s a s' = false)
    (hx : s.record? r = some x) (hy : s'.record? r = some y) :
    y.trigger = if endsWell r s a s' then x.recurrence.nextRun s.clockEnd x.trigger s.now
      else x.trigger := by
  obtain ⟨t, hmove, hcore⟩ := step_move hstep
  have hpump : s'.pump = t.pump := congrArg (fun w => w.pump) hcore
  have hrecord : t.record? r = s'.record? r := congrArg (fun w => w.record? r) hcore.symm
  rw [postpones, hpump] at hnot
  exact hmove.trigger hnot hx (hrecord.trans hy)

/-- What a record is known by in the delay queue, where nothing moves its trigger. -/
theorem Move.key (h : Move s a t) (hnot : postpones r s a t = false)
    (hends : endsWell r s a t = false) (hx : s.record? r = some x) (hy : t.record? r = some y) :
    y.key = x.key := by
  have htrigger := h.trigger hnot hx hy
  rw [hends, if_neg Bool.false_ne_true] at htrigger
  obtain ⟨y', hy', hkeeps⟩ := h.keeps.kept hx
  rw [hy] at hy'
  cases hy'
  rw [Record.key, Record.key, htrigger, hkeeps.id]

end System

end TaskScheduler
