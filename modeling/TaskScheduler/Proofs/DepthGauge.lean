import TaskScheduler.Proofs.DelayQueue.Operations
import TaskScheduler.Proofs.Turn

/-
  The published depth of the delay queue.

  Every operation that changes the entries publishes their number under the lock of the queue, apart
  from the one that puts a record back after a failed hand-off (`Acts.publishes`). A step of the
  service carries out one operation of the queue at most (`Move.queue_act`). The pump publishes the
  depth whenever it takes a record, and until it puts that record back the depth stays right
  (`Gauged`); so what has been published is never more than one entry behind.
-/
namespace TaskScheduler

namespace DelayQueue

variable {q q' : DelayQueue} {op : Op} {answer : Answer}

def Op.isPutBack : Op → Bool
  | putBack .. => true
  | _ => false

/-- Nothing has changed, or the depth is published. -/
def Publishes (q q' : DelayQueue) : Prop :=
  (q'.entries = q.entries ∧ q'.depthGauge = q.depthGauge) ∨ q'.depthGauge = some q'.size

theorem Acts.publishes (hacts : Acts q op q' answer) (hop : op.isPutBack = false) :
    Publishes q q' := by
  cases hacts with
  | @offered pending k r _ =>
    cases pending with
    | true => exact .inr rfl
    | false => exact .inl ⟨rfl, rfl⟩
  | putBack => cases hop
  | removed _ | delivered _ _ => exact .inr rfl
  | _ => exact .inl ⟨rfl, rfl⟩

/-- Putting a record back adds one entry at most, and publishes nothing. -/
theorem putBack_size (q : DelayQueue) (pending : Bool) (k : Key) (r : Ref) :
    (q.putBack pending k r).depthGauge = q.depthGauge ∧
      ((q.putBack pending k r).size = q.size ∨ (q.putBack pending k r).size = q.size + 1) := by
  cases pending with
  | true => exact ⟨rfl, length_insertEntry k r q.entries⟩
  | false => exact ⟨rfl, .inl rfl⟩

end DelayQueue

namespace PumpPhase

def isOffering : PumpPhase → Bool
  | offering _ => true
  | _ => false

theorem isOffering_iff {phase : PumpPhase} :
    phase.isOffering = true ↔ ∃ r, phase = .offering r := by
  cases phase <;> simp [isOffering]

end PumpPhase

namespace System

variable {α : Type} {s s' t : System α} {a : Action α}

/-- The pump puts a record back into the delay queue after a failed hand-off. -/
def putsBack (s : System α) (_ : Action α) (t : System α) : Bool :=
  s.pump.any (·.isOffering) && t.pump == some .waiting

/-! ## The operations of the delay queue in a service -/

/-- A move carries out one operation of the delay queue at most, or takes back that a pump is to be
started; and only the pump puts back. -/
theorem Move.queue_act (h : Move s a t) :
    t.queue = s.queue ∨ t.queue = s.queue.releaseConsumer ∨ ∃ op, t.queue = (s.queue.act op).1 ∧
      (op.isPutBack = true → putsBack s a t = true) := by
  have hoffered : ∀ {pending : Bool} {k : Key} {r : Ref} {queue : DelayQueue} {needsPump : Bool},
      s.queue.offer pending k r = some (queue, needsPump) →
      queue = (s.queue.act (.offer pending k r)).1 := by
    intro pending k r queue needsPump hoffer
    simp only [DelayQueue.act, hoffer]
  have hother : ∀ {op : DelayQueue.Op} {P : Prop}, op.isPutBack = false → op.isPutBack = true → P :=
    fun hnot hback => absurd (hnot.symm.trans hback) Bool.false_ne_true
  rcases h.kinds with ⟨u, _, _, hcall, -, ht⟩ | hpump | hworker | howner | ⟨now, rfl⟩
  · rw [ht]
    cases hcall with
    | offered hoffer => exact .inr (.inr ⟨_, hoffered hoffer, hother rfl⟩)
    | @removed r k | @retracted r k => exact .inr (.inr ⟨.remove k, rfl, hother rfl⟩)
    | closed => exact .inr (.inr ⟨.close, rfl, hother rfl⟩)
    | unlaunched _ _ | replacedLast _ _ => exact .inr (.inl rfl)
    | _ => exact .inl rfl
  · cases hpump with
    | @took k r rest _ hentries hout =>
      refine .inr (.inr ⟨.look s.now false, ?_, hother rfl⟩)
      rw [DelayQueue.look_cons hentries, if_pos hout]
      rfl
    | idled _ hentries hopen =>
      refine .inr (.inr ⟨.look s.now true, ?_, hother rfl⟩)
      rw [DelayQueue.look_nil hentries, if_neg (by simp [hopen]), if_pos rfl]
    | drained _ hentries hclosed =>
      refine .inr (.inr ⟨.look s.now false, ?_, hother rfl⟩)
      rw [DelayQueue.look_nil hentries, if_pos hclosed]
    | @returned r hphase =>
      refine .inr (.inr ⟨.putBack (s.isPending r) (s.key r) r, rfl, fun _ => ?_⟩)
      rw [putsBack, hphase]
      rfl
    | _ => exact .inl rfl
  · cases hworker with
    | requeued _ hoffer => exact .inr (.inr ⟨_, hoffered hoffer, hother rfl⟩)
    | @retracted _ _ k _ _ => exact .inr (.inr ⟨.remove k, rfl, hother rfl⟩)
    | unlaunched _ _ _ => exact .inr (.inl rfl)
    | _ => exact .inl rfl
  · cases howner <;> exact .inl rfl
  · exact .inl rfl

/-- A step at which the pump puts nothing back leaves the entries and the gauge as they are, or
publishes the depth. -/
theorem step_publishes (hstep : s.step a = some s') (hnot : putsBack s a s' = false) :
    DelayQueue.Publishes s.queue s'.queue := by
  obtain ⟨t, hmove, hcore⟩ := step_move hstep
  have hqueue : s'.queue = t.queue := congrArg (fun w => w.queue) hcore
  have hpump : s'.pump = t.pump := congrArg (fun w => w.pump) hcore
  rw [putsBack, hpump] at hnot
  rw [hqueue]
  rcases hmove.queue_act with hsame | hreleased | ⟨op, hact, hback⟩
  · exact .inl ⟨congrArg _ hsame, congrArg _ hsame⟩
  · rw [hreleased]
    exact .inl ⟨rfl, rfl⟩
  · rw [hact]
    refine (DelayQueue.act_acts s.queue op).publishes (eq_false_of_ne_true fun hop => ?_)
    have hputs : putsBack s a t = true := hback hop
    rw [putsBack, hnot] at hputs
    cases hputs

theorem step_putsBack (hstep : s.step a = some s') (hputs : putsBack s a s' = true) :
    ∃ r, s.pump = some (.offering r) ∧ s'.pump = some .waiting ∧
      s'.queue = s.queue.putBack (s.isPending r) (s.key r) r := by
  rw [putsBack, Bool.and_eq_true] at hputs
  obtain ⟨phase, hpump, hphase⟩ := (Option.any_eq_true _ _).mp hputs.1
  obtain ⟨r, rfl⟩ := PumpPhase.isOffering_iff.mp hphase
  have hpump' : s'.pump = some .waiting := eq_of_beq hputs.2
  refine ⟨r, hpump, hpump', ?_⟩
  cases step_pump hstep hpump nofun with
  | other _ hkept => cases hpump'.symm.trans hkept
  | own hown =>
    rw [pumpStep, hpump] at hown
    cases hown
    rfl
  | panic hfault _ => cases hfault

/-! ## What the gauge says -/

/-- The pump has a record in hand. -/
def hasInHand (s : System α) : Bool := s.pump.any (·.record?.isSome)

theorem hasInHand_of_record {phase : PumpPhase} {r : Ref} (hpump : s.pump = some phase)
    (hrecord : phase.record? = some r) : s.hasInHand = true := by
  rw [hasInHand, hpump, Option.any_some, hrecord]
  rfl

/-- The pump had the record in hand before, or has taken it and published the depth. -/
theorem PumpMove.hand_from (h : PumpMove s t) (ht : t.hasInHand = true) :
    s.hasInHand = true ∨ t.queue.depthGauge = some t.queue.size := by
  cases h with
  | took => exact .inr rfl
  | wentOn hpump hgoes =>
    obtain ⟨r, hrecord, -⟩ := hgoes.record
    exact .inl (hasInHand_of_record hpump hrecord)
  | refused _ hpump _ | unwound _ hpump _ | withdrew hpump | noted hpump _ | postponed hpump =>
    exact .inl (hasInHand_of_record hpump rfl)
  | stopped _ hnext => rcases hnext with rfl | ⟨_, rfl⟩ <;> cases ht
  | _ => cases ht

theorem Move.hand_from (h : Move s a t) (ht : t.hasInHand = true) :
    s.hasInHand = true ∨ t.queue.depthGauge = some t.queue.size := by
  obtain ⟨phase, hpump, hphase⟩ := (Option.any_eq_true _ _).mp ht
  rcases h.pump_from hpump (by rintro rfl; cases hphase) with hsame | hmove
  · refine .inl ?_
    rw [hasInHand, hsame]
    exact hphase
  · exact hmove.hand_from ht

/-- Before a depth is published there is no entry. The depth that was published last is one too
small at most, and it is right while the pump has a record in hand. -/
structure Gauged (s : System α) : Prop where
  unset : s.queue.depthGauge = none → s.queue.entries = []
  set : ∀ n, s.queue.depthGauge = some n → n = s.queue.size ∨ n + 1 = s.queue.size
  inHand : s.hasInHand = true → s.queue.depthGauge = some s.queue.size

theorem Gauged.of_published (h : s.queue.depthGauge = some s.queue.size) : Gauged s where
  unset hnone := by
    rw [h] at hnone
    cases hnone
  set n hn := .inl (Option.some.inj (hn.symm.trans h))
  inHand _ := h

theorem Gauged.step (h : Gauged s) (hstep : s.step a = some s') : Gauged s' := by
  cases hputs : putsBack s a s' with
  | false =>
    rcases step_publishes hstep hputs with ⟨hentries, hgauge⟩ | hpublished
    · have hsize : s'.queue.size = s.queue.size := congrArg List.length hentries
      refine ⟨?_, ?_, fun hhand => ?_⟩
      · rw [hgauge, hentries]
        exact h.unset
      · rw [hgauge, hsize]
        exact h.set
      · have hfrom : s.hasInHand = true ∨ s'.queue.depthGauge = some s'.queue.size :=
          step_of_move (P := fun t => t.hasInHand = true →
            s.hasInHand = true ∨ t.queue.depthGauge = some t.queue.size)
            (fun _ => rfl) (fun hmove => hmove.hand_from) hstep hhand
        rcases hfrom with hbefore | hpublished
        · rw [hgauge, hsize]
          exact h.inHand hbefore
        · exact hpublished
    · exact .of_published hpublished
  | true =>
    obtain ⟨r, hpump, hpump', hqueue⟩ := step_putsBack hstep hputs
    have hpublished := h.inHand (hasInHand_of_record hpump rfl)
    obtain ⟨hgauge, hsize⟩ := s.queue.putBack_size (s.isPending r) (s.key r) r
    rw [← hqueue] at hgauge hsize
    rw [hpublished] at hgauge
    refine ⟨fun hnone => ?_, fun n hn => ?_, fun hhand => ?_⟩
    · rw [hgauge] at hnone
      cases hnone
    · obtain rfl : n = s.queue.size := Option.some.inj (hn.symm.trans hgauge)
      exact hsize.imp Eq.symm Eq.symm
    · rw [hasInHand, hpump'] at hhand
      cases hhand

theorem Gauged.exec {actions : List (Action α)} (h : Gauged s) (hrun : s.exec actions = some t) :
    Gauged t :=
  exec_keeps (P := Gauged) (fun _ h hstep => h.step hstep) h hrun

/-- Without records that are put back, the gauge is right once it is set. -/
theorem exec_gauge {actions : List (Action α)}
    (h : ∀ n, s.queue.depthGauge = some n → n = s.queue.size) (hrun : s.exec actions = some t)
    (hnone : s.occurrences putsBack actions = 0) :
    ∀ n, t.queue.depthGauge = some n → n = t.queue.size := by
  refine exec_keeps_unless
    (P := fun s => ∀ n, s.queue.depthGauge = some n → n = s.queue.size) ?_ h hrun hnone
  intro s s' a h hstep hnot n hn
  rcases step_publishes hstep hnot with ⟨hentries, hgauge⟩ | hpublished
  · have hsize : s'.queue.size = s.queue.size := congrArg List.length hentries
    rw [hsize]
    exact h n (hgauge ▸ hn)
  · exact Option.some.inj (hn.symm.trans hpublished)

/-- The published depth, whatever the clients, the pump and the workers do. As long as none is
published, the delay queue is empty. One that is published is right, or it is one too small; and it
is right as long as the pump has put no record back. Any step that changes the entries, other than
that, sets it right. -/
theorem published_depth_lags_by_one (host : Host) (name : String) (config : ServiceConfig)
    (clockEnd now : Instant) {actions : List (Action α)}
    (hrun : (System.initial host name config clockEnd now).exec actions = some s) :
    (s.queue.depthGauge = none → s.queue.entries = []) ∧
      (∀ n, s.queue.depthGauge = some n →
        (n = s.queue.size ∨ n + 1 = s.queue.size) ∧
        ((System.initial host name config clockEnd now).occurrences putsBack actions = 0 →
          n = s.queue.size)) ∧
      ∀ a t, s.step a = some t → putsBack s a t = false →
        t.queue.entries ≠ s.queue.entries → t.queue.depthGauge = some t.queue.size := by
  have hstart : Gauged (System.initial host name config clockEnd now : System α) :=
    ⟨fun _ => rfl, nofun, nofun⟩
  have hgauged := hstart.exec hrun
  refine ⟨hgauged.unset, fun n hn => ⟨hgauged.set n hn, fun hnone => ?_⟩, ?_⟩
  · exact exec_gauge (by nofun) hrun hnone n hn
  · intro a t hstep hnot hchanged
    exact (step_publishes hstep hnot).resolve_left fun hsame => hchanged hsame.1

/-- A record is scheduled and taken when it is due, its hand-off panics, and it is put back. -/
def putBackOnce : List (Action Unit) :=
  [.begin (.schedule (.ofNanos 2)), .call 0 0, .call 0 0, .call 0 0, .call 0 0,
    .passTime (.ofNanos 2), .pump 0, .pumpFault ⟨.literal "no memory"⟩,
    .pump 0, .pump 0, .pump 0, .pump 0, .pump 0]

/-- The record is in the delay queue again, and the published depth is still that without it. -/
theorem put_back_record_is_not_published :
    ((System.initial .lenient "service" (.ofProcessors 1) 1000000000000 0).exec putBackOnce).map
        (fun s => (s.queue.depthGauge, s.queue.size)) = some (some 0, 1) := by
  decide +kernel

theorem published_depth_lags_after_put_back :
    ∃ s, (System.initial .lenient "service" (.ofProcessors 1) 1000000000000 0).exec putBackOnce =
        some s ∧
      s.queue.depthGauge = some 0 ∧ (0 = s.queue.size ∨ 0 + 1 = s.queue.size) := by
  have hruns : ((System.initial .lenient "service" (.ofProcessors 1) 1000000000000 0).exec
      putBackOnce).any (fun s => decide (s.queue.depthGauge = some 0)) = true := by decide +kernel
  obtain ⟨s, hs, hgauge⟩ := (Option.any_eq_true _ _).mp hruns
  have hgauge := of_decide_eq_true hgauge
  exact ⟨s, hs, hgauge, ((published_depth_lags_by_one .lenient "service" (.ofProcessors 1)
    1000000000000 0 hs).2.1 0 hgauge).1⟩

end System

end TaskScheduler
