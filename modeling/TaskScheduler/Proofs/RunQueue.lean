import TaskScheduler.Proofs.Cancellation
import TaskScheduler.Proofs.Disposal

/-
  Who puts records into the run queue, and who takes them out.

  `Passage s a t`: what a step does to the run queue. A record gets in at its end, from the pump
  that hands it over or from a submission for work that is to start at once, and it gets out at its
  front, picked up by a worker. Else the pump takes a record back after a panic, or the pool is
  closed with no worker to be had. `step_passage`: a step does nothing else to it.
  `Reachable.executing`: what a submission hands over runs once, and is due. So it is for all
  records that the pool of a service gets whose pump cannot have its name (`Reachable.unpooled`).
-/
namespace TaskScheduler

/-- The record that a submission is about to hand to the pool. -/
def Submission.executing? : Submission → Option Ref
  | executing r => some r
  | _ => none

/-- The record that a call is about to hand to the pool. -/
def Call.executing? {α : Type} (call : Call α) : Option Ref :=
  call.submission?.bind (·.executing?)

theorem Call.duty_of_executing {α : Type} {call : Call α} {r : Ref}
    (h : call.executing? = some r) : call.duty = .carrying r := by
  obtain ⟨stage, hat, hstage⟩ := Option.bind_eq_some_iff.mp h
  have hduty : stage.duty = .carrying r := by
    cases stage <;> cases hstage
    rfl
  cases call with
  | submission current =>
    cases hat
    exact hduty
  | batch batch =>
    cases batch with
    | submitting accepted current left =>
      cases hat
      exact hduty
    | _ => cases hat
  | _ => cases hat

namespace System

variable {α : Type} {s s' t u : System α} {a : Action α} {duty duty' : Duty} {r : Ref} {i : Nat}

/-- Someone puts the record into the run queue. -/
def entersRunQueue (r : Ref) (s : System α) (_ : Action α) (t : System α) : Bool :=
  decide (s.pool.queue.count r < t.pool.queue.count r)

/-- A worker picks the record up. -/
def picksUp (r : Ref) (s : System α) (a : Action α) (t : System α) : Bool :=
  match a with
  | .worker i => s.pool.phase? i != some (.picked r) && t.pool.phase? i == some (.picked r)
  | _ => false

/-- Someone is about to hand the record to the pool: the pump, or the submission that has made
it. -/
def OnHandoff (s : System α) (r : Ref) : Prop :=
  s.pump = some (.handing r) ∨
    ∃ (i : Nat) (call : Call α), s.calls[i]? = some call ∧ call.executing? = some r

/-- What a step does to the run queue. -/
inductive Passage (s : System α) (a : Action α) (t : System α) : Prop where
  | kept : t.pool.queue = s.pool.queue → Passage s a t
  | entered {r : Ref} : s.OnHandoff r → s.pool.closing = false →
      t.pool.queue = s.pool.queue ++ [r] → Passage s a t
  | left {r : Ref} : picksUp r s a t = true → s.pool.queue = r :: t.pool.queue → Passage s a t
  /-- The pump takes the record out again whose hand-off has panicked. -/
  | withdrew {r : Ref} {failure : Failure} : s.pump = some (.faulted r failure) →
      t.pump = some (.withdrawn r failure) → t.pool.queue = (s.pool.withdraw r).1.queue →
      Passage s a t
  /-- The pool is closed, and no worker can be started for what is left. -/
  | stranded : s.pump = some .stopping → t.pool.closing = true → t.pool.queue = [] →
      Passage s a t

theorem Passage.congr (h : Passage s a t) (hpool : u.pool = t.pool) (hpump : u.pump = t.pump) :
    Passage s a u := by
  have hqueue : u.pool.queue = t.pool.queue := congrArg Pool.queue hpool
  cases h with
  | kept hkept => exact .kept (hqueue.trans hkept)
  | entered hfrom hopen hentered => exact .entered hfrom hopen (hqueue.trans hentered)
  | @left r hpicked hleft =>
    refine .left (r := r) ?_ (hqueue ▸ hleft)
    have hsame : picksUp r s a u = picksUp r s a t := by cases a <;> simp only [picksUp, hpool]
    exact hsame.trans hpicked
  | withdrew hfaulted hafter hwithdrawn =>
    exact .withdrew hfaulted (hpump.trans hafter) (hqueue.trans hwithdrawn)
  | stranded hstopping hclosing hnone =>
    exact .stranded hstopping (hpool ▸ hclosing) (hqueue.trans hnone)

/-! ## Steps -/

theorem PumpMove.passage (h : PumpMove s t) : Passage s a t := by
  cases h with
  | @handedOver r choice hpump hanswer =>
    have hqueue := Pool.execute_queue s.pool r choice
    rw [hanswer] at hqueue
    exact .entered (.inl hpump) hqueue.1 hqueue.2
  | @refused r error choice hpump hanswer =>
    have hqueue := Pool.execute_queue s.pool r choice
    rw [hanswer] at hqueue
    exact .kept hqueue
  | @unwound r failure choice hpump hanswer =>
    have hqueue := Pool.execute_queue s.pool r choice
    rw [hanswer] at hqueue
    exact .entered (.inl hpump) hqueue.1 hqueue.2.1
  | withdrew hpump => exact .withdrew hpump rfl rfl
  | stopped hpump _ =>
    have hclosing := s.pool.shutdown_closing
    have hres := s.pool.shutdown_result
    generalize s.pool.shutdown = e at hres hclosing
    cases hres with
    | left => exact .kept rfl
    | drained => exact .kept rfl
    | grew events _ hg => exact .kept hg.queue
    | stranded reason _ _ => exact .stranded hpump hclosing rfl
    | unwound failure _ hm => exact .kept hm.grew.queue
  | _ => exact .kept rfl

theorem WorkerMove.passage (h : WorkerMove s a t) : Passage s a t := by
  cases h with
  | looked hlook =>
    rcases Pool.look_queue hlook with ⟨hkept, -⟩ | ⟨r, hleft, hafter, hbefore⟩
    · exact .kept hkept
    · refine .left (r := r) ?_ hleft
      rw [picksUp, beq_iff_eq.mpr hafter, bne_iff_ne.mpr hbefore]
      rfl
  | expired hexpire => exact .kept (Pool.expire_tally hexpire).1
  | counted hcount => exact .kept (Pool.countRun_tally hcount).1
  | _ => exact .kept rfl

theorem OwnerMove.passage (h : OwnerMove s t) : Passage s a t := by
  cases h with
  | resized size =>
    obtain ⟨n, hg⟩ := s.pool.setCoreSize_grew size
    exact .kept hg.queue
  | prestarted count =>
    obtain ⟨n, hg⟩ := s.pool.prestart_grew count
    exact .kept hg.queue
  | refactored factory => exact .kept rfl

/-- A call that carries no record leaves the pool alone. -/
theorem CallMove.pool_kept (h : CallMove s duty t duty') (hduty : ∀ r, duty ≠ .carrying r) :
    t.pool = s.pool := by
  cases h <;> first | rfl | exact absurd rfl (hduty _)

/-- A submission asks the pool for nothing but to take its record. -/
theorem submissionStep_pool {choice : Nat} {stage stage' : Submission}
    (h : s.submissionStep choice stage = some (u, stage')) :
    u.pool = s.pool ∨
      ∃ r, stage.executing? = some r ∧ u.pool = (s.pool.execute r choice).pool := by
  cases stage with
  | executing r =>
    refine .inr ⟨r, rfl, ?_⟩
    unfold submissionStep execute at h
    simp only at h
    split at h <;>
      next heq =>
        obtain ⟨rfl, -⟩ := Prod.mk.inj heq
        cases h
        rfl
  | checking r kind =>
    simp only [submissionStep] at h
    split at h <;> cases h <;> exact .inl rfl
  | offering r kind =>
    left
    simp only [submissionStep, offer] at h
    cases hoffer : s.queue.offer (s.isPending r) (s.key r) r with
    | none =>
      rw [hoffer] at h
      cases h
      rfl
    | some offered =>
      obtain ⟨queue, needsPump⟩ := offered
      rw [hoffer] at h
      cases needsPump <;> cases h <;> rfl
  | _ =>
    obtain ⟨t, hmove, hcore⟩ := submissionStep_move h (.inl rfl)
    exact .inl ((congrArg (fun w => w.pool) hcore).trans (hmove.pool_kept (by rintro _ ⟨⟩)))

theorem stageStep_pool {choice : Nat} {call call' : Call α}
    (h : s.stageStep choice call = some (u, call')) :
    u.pool = s.pool ∨
      ∃ r, call.executing? = some r ∧ u.pool = (s.pool.execute r choice).pool := by
  have hother : (∀ r, call.duty ≠ .carrying r) → u.pool = s.pool := by
    intro hduty
    obtain ⟨t, hmove, hcore⟩ := stageStep_move h
    exact (congrArg (fun w => w.pool) hcore).trans (hmove.pool_kept hduty)
  cases call with
  | submission stage =>
    obtain ⟨⟨v, stage'⟩, hv, heq⟩ := Option.map_eq_some_iff.mp h
    cases heq
    have hgive : (v.giveHandle stage').pool = v.pool := by cases stage' <;> rfl
    rw [hgive]
    exact submissionStep_pool hv
  | withdrawal stage => exact .inl (hother fun r => by cases stage <;> nofun)
  | retrieval stage => exact .inl (hother nofun)
  | disposal stage => exact .inl (hother fun r => by cases stage <;> nofun)
  | batch batch =>
    cases batch with
    | submitting accepted stage left =>
      obtain ⟨⟨v, batch'⟩, hv, heq⟩ := Option.map_eq_some_iff.mp h
      cases heq
      obtain ⟨⟨w, stage'⟩, hw, heq⟩ := Option.map_eq_some_iff.mp hv
      cases heq
      exact submissionStep_pool hw
    | cancelling error stage left => exact .inl (hother fun r => by cases stage <;> nofun)
    | _ => exact .inl (hother nofun)

/-- Sections of calls apart, what a move does to the run queue is told by the kind of move. -/
theorem Move.passage (h : Move s a t) (hcall : ∀ i choice, a ≠ .call i choice) :
    Passage s a t := by
  cases h with
  | begun hmove => exact .kept (congrArg Pool.queue (hmove.pool_kept nofun))
  | called _ _ => exact absurd rfl (hcall _ _)
  | callRefused _ hmove hrefused =>
    exact .kept (congrArg Pool.queue (hmove.refused_frame hrefused).2.1)
  | pumped hmove | pumpIdled hmove | pumpFaulted hmove => exact hmove.passage
  | worked hmove => exact hmove.passage
  | resized size => exact (OwnerMove.resized size).passage
  | prestarted count => exact (OwnerMove.prestarted count).passage
  | refactored factory => exact (OwnerMove.refactored factory).passage
  | _ => exact .kept rfl

theorem callStep_passage {choice : Nat} (h : s.callStep i choice = some s') :
    Passage s (.call i choice) s' := by
  obtain ⟨call, hcall, h⟩ := Option.bind_eq_some_iff.mp h
  obtain ⟨⟨u, call'⟩, hstage, rfl⟩ := Option.map_eq_some_iff.mp h
  rcases stageStep_pool hstage with hsame | ⟨r, hr, hpool⟩
  · exact .kept (congrArg Pool.queue hsame)
  · have hfrom : s.OnHandoff r := .inr ⟨i, call, hcall, hr⟩
    have hqueue := Pool.execute_queue s.pool r choice
    rw [← hpool] at hqueue
    cases hanswer : (s.pool.execute r choice).answer with
    | ok value =>
      rw [hanswer] at hqueue
      exact .entered hfrom hqueue.1 hqueue.2
    | error error =>
      rw [hanswer] at hqueue
      exact .kept hqueue
    | unwound failure =>
      rw [hanswer] at hqueue
      exact .entered hfrom hqueue.1 hqueue.2.1

/-- What a step does to the run queue is one of these. -/
theorem step_passage (hstep : s.step a = some s') : Passage s a s' := by
  by_cases hcall : ∃ i choice, a = .call i choice
  · obtain ⟨i, choice, rfl⟩ := hcall
    exact callStep_passage hstep
  · obtain ⟨t, hmove, hcore⟩ := step_move hstep
    exact (hmove.passage fun i choice ha => hcall ⟨i, choice, ha⟩).congr
      (congrArg (fun w => w.pool) hcore) (congrArg (fun w => w.pump) hcore)

/-- A worker that has just picked a record up has taken it from the front of the run queue. -/
theorem WorkerMove.picked (h : WorkerMove s (.worker i) t)
    (hpicked : t.pool.phase? i = some (.picked r)) : s.pool.queue = r :: t.pool.queue := by
  have hgoes : ∀ {p : Pool} {old new : WorkerPhase}, p.phase? i = some old →
      t.pool = p.setPhase i new → new ≠ .picked r → s.pool.queue = r :: t.pool.queue := by
    intro p old new hphase hpool hnew
    rw [hpool, Pool.phase?_setPhase_self hphase] at hpicked
    exact absurd (Option.some.inj hpicked) hnew
  cases h with
  | looked hlook =>
    rcases Pool.look_queue hlook with ⟨-, hnot⟩ | ⟨r', hleft, hafter, -⟩
    · exact absurd hpicked (hnot r)
    · cases hafter.symm.trans hpicked
      exact hleft
  | counted hcount =>
    obtain ⟨r', hphase, rfl⟩ := Pool.countRun_eq_some hcount
    exact hgoes (p := { s.pool with completed := s.pool.completed + 1 }) hphase rfl nofun
  | @requeued i r' queue needsPump hphase _ =>
    exact hgoes hphase rfl (by cases needsPump <;> nofun)
  | began hphase _ _ => exact hgoes hphase rfl nofun
  | passedOver hphase _ => exact hgoes hphase rfl nofun
  | entered hphase _ => exact hgoes hphase rfl nofun
  | spent hphase _ => exact hgoes hphase rfl nofun
  | refused hphase _ => exact hgoes hphase rfl nofun
  | gaveUp hphase => exact hgoes hphase rfl nofun
  | launched hphase _ _ => exact hgoes hphase rfl nofun
  | retracted hphase => exact hgoes hphase rfl nofun
  | rejected hphase => exact hgoes hphase rfl nofun

/-- A submission comes to hand over a record by making one that is due at once. -/
theorem submissionStep_executing {choice : Nat} {stage stage' : Submission}
    (h : s.submissionStep choice stage = some (u, stage')) (hr : stage'.executing? = some r) :
    ∃ x : Record α, x.recurrence = .once ∧ x.trigger = s.now ∧
      u.record? r = some x ∧ u.now = s.now := by
  cases stage with
  | arriving =>
    simp only [submissionStep] at h
    split at h
    · cases h
      cases hr
      refine ⟨{ id := s.nextId, recurrence := .once, trigger := s.now }, rfl, rfl, ?_, rfl⟩
      show (s.records ++ [_])[s.records.length]? = _
      rw [List.getElem?_append_right (Nat.le_refl _), Nat.sub_self, List.getElem?_cons_zero]
    · cases h
      cases hr
  | executing r' =>
    unfold submissionStep execute at h
    simp only at h
    split at h <;> cases h <;> cases hr
  | checking r' kind =>
    simp only [submissionStep] at h
    split at h <;> cases h <;> cases hr
  | offering r' kind =>
    simp only [submissionStep] at h
    split at h <;> cases h <;> cases hr
  | startingPump r' kind k =>
    simp only [submissionStep] at h
    split at h
    · cases h
    · split at h <;> cases h <;> cases hr
  | retracting r' k reason | counting r' kind | explaining r' =>
    cases h
    cases hr
  | _ => cases h

theorem stageStep_executing {choice : Nat} {call call' : Call α}
    (h : s.stageStep choice call = some (u, call')) (hr : call'.executing? = some r) :
    ∃ x : Record α, x.recurrence = .once ∧ x.trigger = s.now ∧
      u.record? r = some x ∧ u.now = s.now := by
  cases call with
  | submission stage =>
    obtain ⟨⟨v, stage'⟩, hv, heq⟩ := Option.map_eq_some_iff.mp h
    cases heq
    obtain ⟨x, honce, hnow, hx, hv'⟩ := submissionStep_executing hv hr
    cases stage' <;> exact ⟨x, honce, hnow, hx, hv'⟩
  | batch batch =>
    obtain ⟨⟨v, batch'⟩, hv, heq⟩ := Option.map_eq_some_iff.mp h
    cases heq
    cases batch with
    | submitting accepted stage left =>
      obtain ⟨⟨w, stage'⟩, hw, heq⟩ := Option.map_eq_some_iff.mp hv
      cases heq
      refine submissionStep_executing hw ?_
      cases stage' with
      | accepted r' => cases left <;> cases hr
      | failed r' error => cases accepted <;> cases hr
      | _ => exact hr
    | cancelling error stage left =>
      obtain ⟨⟨w, stage'⟩, -, heq⟩ := Option.map_eq_some_iff.mp hv
      cases stage' <;> cases left <;> cases heq <;> cases hr
    | collecting outcomes left =>
      cases left with
      | nil =>
        cases hv
        cases hr
      | cons r' rest =>
        simp only [batchStep] at hv
        split at hv <;> cases hv
        cases hr
    | _ => cases hv
  | _ =>
    obtain ⟨_, -, heq⟩ := Option.map_eq_some_iff.mp h
    cases heq
    cases hr

theorem firstStage_executing (request : Request) :
    (s.firstStage request).2.executing? = none := by
  cases request with
  | scheduleSeries delay recurrence =>
    simp only [firstStage]
    split <;> rfl
  | submitAll count => cases count <;> rfl
  | _ => rfl

theorem arriving_of_executing {call : Call α} (hcall : s.calls[i]? = some call)
    (hr : call.executing? = some r) : 0 < s.arriving r :=
  countP_pos_of_getElem? hcall (by rw [Call.duty_of_executing hr]; exact beq_self_eq_true _)

/-- What a submission is about to hand to the pool runs once, and its time has come. -/
theorem Reachable.executing (h : Reachable s) :
    ∀ {i : Nat} {call : Call α} {r}, s.calls[i]? = some call → call.executing? = some r →
      ∃ x, s.record? r = some x ∧ x.recurrence = .once ∧ x.trigger ≤ s.now := by
  induction h with
  | initial host name config clockEnd now => exact nofun
  | @step s s' a hs hstep ih =>
    intro i call r hcall hr
    rcases step_call hstep hcall with
      hold | ⟨request, -, rfl⟩ | ⟨choice, _, u, -, -, hstage, rfl⟩ | ⟨_, _, _, -, -, hrefusal, -⟩
    · obtain ⟨x, hx, honce, hdue⟩ := ih hold hr
      obtain ⟨t, hmove, hcore⟩ := step_move hstep
      refine of_core (P := fun s' => ∃ y, s'.record? r = some y ∧ y.recurrence = .once ∧
        y.trigger ≤ s'.now) (fun _ => rfl) hcore ?_
      obtain ⟨y, hy, hkeeps⟩ := hmove.keeps.kept hx
      have hcarried := arriving_of_executing hold hr
      have hnowhere := hs.carried r hcarried
      have hplaces : s.places r = s.queue.holds r + s.pumpHolds r + s.pool.holds r := rfl
      have htrigger := hmove.trigger (postpones_eq_false (by omega)) hx hy
      rw [honce, Recurrence.nextRun, ite_self] at htrigger
      refine ⟨y, hy, hkeeps.recurrence.trans honce, ?_⟩
      rw [htrigger]
      exact Int.le_trans hdue hmove.now_le
    · rw [firstStage_executing] at hr
      cases hr
    · obtain ⟨x, honce, hnow, hx, hu⟩ := stageStep_executing hstage hr
      exact ⟨x, hx, honce, Int.le_of_eq (hnow.trans hu.symm)⟩
    · cases hrefusal <;> cases hr

/-! ## Services whose pump cannot have its name -/

/-- Without a pump the pool gets only what submissions hand over, which runs once. -/
theorem Reachable.unpooled (h : Reachable s) (hname : s.pumpNameFault? ≠ none) :
    s.repeats r = true → s.pool.holds r = 0 := by
  induction h with
  | initial host name config clockEnd now => exact fun _ => rfl
  | @step s s' a hs hstep ih =>
    intro hrepeats
    rw [step_pumpNameFault? hstep] at hname
    obtain ⟨y, hy, hrepeats⟩ := (Option.any_eq_true _ _).mp hrepeats
    have hkept : ∀ {x}, s.record? r = some x → x.repeats = true := by
      intro x hx
      obtain ⟨y', hy', hkeeps⟩ := step_record hstep hx
      obtain rfl := Option.some.inj (hy.symm.trans hy')
      rw [hkeeps.repeats] at hrepeats
      exact hrepeats
    have hbefore : s.pool.holds r = 0 := by
      cases hx : s.record? r with
      | none =>
        have hnowhere := hs.unmade hx
        have hplaces : s.places r = s.queue.holds r + s.pumpHolds r + s.pool.holds r := rfl
        omega
      | some x => exact ih hname (by rw [repeats, hx]; exact hkept hx)
    refine Nat.le_zero.mp (hbefore ▸ ?_)
    obtain ⟨t, hmove, hcore⟩ := step_move hstep
    have hpool : s'.pool = t.pool := congrArg (fun w => w.pool) hcore
    rw [hpool]
    cases hmove with
    | begun hcall => exact hcall.pool_holds_le fun heq => by cases heq
    | callRefused _ hcall hrefused =>
      exact Nat.le_of_eq (congrArg (·.holds r) (hcall.refused_frame hrefused).2.1)
    | @called i choice call call' u hi hcall =>
      rw [← hpool]
      obtain ⟨call, hi, hstep⟩ := Option.bind_eq_some_iff.mp hstep
      obtain ⟨⟨v, call'⟩, hstage, rfl⟩ := Option.map_eq_some_iff.mp hstep
      rcases stageStep_pool hstage with hsame | ⟨r', hr, hexecuted⟩
      · exact Nat.le_of_eq (congrArg (·.holds r) hsame)
      · obtain ⟨x, hx, honce, -⟩ := hs.executing hi hr
        have hne : r ≠ r' := by
          rintro rfl
          have hrepeats := hkept hx
          rw [Record.repeats, honce] at hrepeats
          cases hrepeats
        exact Nat.le_of_eq ((congrArg (·.holds r) hexecuted).trans
          (Pool.execute_holds_other (Ne.symm hne) choice))
    | pumped hpump | pumpIdled hpump | pumpFaulted hpump =>
      obtain ⟨phase, hphase⟩ := hpump.pump_at_work
      rw [hs.no_pump hname] at hphase
      cases hphase
    | worked hworker => exact hworker.pool_holds_le r
    | resized size => exact Nat.le_of_eq ((OwnerMove.resized size).pool_holds r)
    | prestarted count => exact Nat.le_of_eq ((OwnerMove.prestarted count).pool_holds r)
    | _ => exact Nat.le_refl _

end System

end TaskScheduler
