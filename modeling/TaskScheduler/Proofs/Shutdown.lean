import TaskScheduler.Proofs.Consumer

/-
  How the service winds down.

  `Winding`: the delay queue is closed, once, after the service has stopped running; the pool is
  closed when the delay queue is empty and has no consumer, which it stays; and the service is
  terminated when the pool is drained, which it stays too (`Reachable.winding`). As the delay queue
  is closed only once, `Consumer` holds of every service too (`Reachable.consumer`).
-/
namespace TaskScheduler

/-- The call has stopped the service, and is to close the delay queue. -/
def Duty.isClosing : Duty → Bool
  | closing => true
  | _ => false

namespace System

variable {α : Type} {s t : System α} {a : Action α} {duty duty' : Duty}

/-- The delay queue is closed and empty, and nobody waits for it. -/
structure QueueDrained (s : System α) : Prop where
  closed : s.queue.closed = true
  entries : s.queue.entries = []
  consumerActive : s.queue.consumerActive = false
  consumers : s.consumers = 0

/-- The pump has seen the end of the delay queue, or what follows from that has happened. -/
def Late (s : System α) : Prop :=
  s.pump.any (!·.isConsumer) = true ∨ s.pool.closing = true ∨ s.lifecycle = .terminated

/-- The pump has seen the end of the pool, or what follows from that has happened. -/
def Over (s : System α) : Prop := s.pump = some .marking ∨ s.lifecycle = .terminated

/-- The steps of winding down, each only after the one before. -/
structure Winding (s : System α) : Prop where
  /-- The service accepts work, or one call is to close the delay queue, or it is closed. -/
  closing : s.owing (·.isClosing) + s.queue.closed.toNat + s.lifecycle.acceptsWork.toNat = 1
  late : s.Late → QueueDrained s
  ended : s.Over → s.pool.hasDrained = true

theorem QueueDrained.not_accepting (hq : QueueDrained s) (hs : Winding s) :
    s.owing (·.isClosing) = 0 ∧ s.lifecycle.acceptsWork = false := by
  have hclosing := hs.closing
  rw [hq.closed, Bool.toNat_true] at hclosing
  refine ⟨by omega, ?_⟩
  cases hlife : s.lifecycle.acceptsWork with
  | false => rfl
  | true =>
    rw [hlife, Bool.toNat_true] at hclosing
    omega

theorem Over.late (h : s.Over) : s.Late := by
  rcases h with hpump | hlife
  · refine .inl ?_
    rw [hpump]
    rfl
  · exact .inr (.inr hlife)

theorem isClosing_of_needs {b : Bool} {duty : Duty} (h : duty.isClosing = false)
    {o : Option (Ref × Key)} : (if b then Duty.launching o else duty).isClosing = false := by
  cases b
  · exact h
  · rfl

/-! ## The drained delay queue -/

theorem QueueDrained.congr (hq : QueueDrained s) (hqueue : t.queue = s.queue)
    (hpump : t.pump = s.pump) : QueueDrained t := by
  refine ⟨hqueue ▸ hq.closed, hqueue ▸ hq.entries, hqueue ▸ hq.consumerActive, ?_⟩
  rw [System.consumers, hpump]
  exact hq.consumers

theorem QueueDrained.remove {k : Key} (hq : QueueDrained s)
    (hqueue : t.queue = (s.queue.remove k).1) (hpump : t.pump = s.pump) : QueueDrained t := by
  obtain ⟨hentries, hclosed, hactive⟩ := DelayQueue.remove_entries s.queue k
  rw [← hqueue] at hentries hclosed hactive
  refine ⟨hclosed.trans hq.closed, ?_, hactive.trans hq.consumerActive, ?_⟩
  · rw [hentries, hq.entries]
    rfl
  · rw [System.consumers, hpump]
    exact hq.consumers

/-- A drained delay queue stays so, since nobody is left who could put a record in or close it. -/
theorem CallMove.queueDrained (h : CallMove s duty t duty') (hq : QueueDrained s)
    (hduty : duty.isClosing.toNat ≤ duty'.isClosing.toNat) (hlaunch : duty.isLaunching = false) :
    QueueDrained t := by
  cases h with
  | offered hoffer => exact absurd hoffer (DelayQueue.offer_ne_some hq.closed)
  | removed => exact hq.remove rfl rfl
  | retracted => exact hq.remove rfl rfl
  | closed =>
    rw [isClosing_of_needs rfl] at hduty
    cases hduty
  | launched | launchedLast | unlaunched | replacedLast => cases hlaunch
  | _ => exact hq.congr rfl rfl

theorem PumpMove.queueDrained (h : PumpMove s t) (hq : QueueDrained s) : QueueDrained t := by
  have hnone : ∀ {phase : PumpPhase}, s.pump = some phase → phase.isConsumer = false := by
    intro phase hpump
    have hzero := hq.consumers
    rw [System.consumers, hpump, Option.any_some] at hzero
    exact Bool.toNat_eq_zero.mp hzero
  have hkept : ∀ {phase : PumpPhase}, s.pump = some phase → t.queue = s.queue →
      (phase.isConsumer = false → t.pump.any (·.isConsumer) = false) → QueueDrained t := by
    intro phase hpump hqueue hafter
    refine ⟨hqueue ▸ hq.closed, hqueue ▸ hq.entries, hqueue ▸ hq.consumerActive, ?_⟩
    rw [System.consumers, hafter (hnone hpump)]
    rfl
  cases h with
  | took hpump _ _ | idled hpump _ _ | drained hpump _ _ | returned hpump => cases hnone hpump
  | passedOver hpump hrecord _ _ =>
    exact hkept hpump rfl fun hphase => by
      rw [isConsumer_of_record hrecord] at hphase
      cases hphase
  | wentOn hpump hgoes =>
    obtain ⟨r, hrecord, -⟩ := hgoes.record
    exact hkept hpump rfl fun hphase => by
      rw [isConsumer_of_record hrecord] at hphase
      cases hphase
  | stopped hpump hnext =>
    refine hkept hpump rfl fun _ => ?_
    rcases hnext with rfl | ⟨failure, rfl⟩ <;> rfl
  | sawDrained hpump _ => exact hkept hpump rfl fun _ => rfl
  | concluded hpump => exact hkept hpump rfl fun _ => rfl
  | gaveUp hpump | handedOver _ hpump _ | refused _ hpump _ | unwound _ hpump _ | withdrew hpump
  | noted hpump _ | rejected hpump | postponed hpump => cases hnone hpump

theorem WorkerMove.queueDrained (h : WorkerMove s a t) (hq : QueueDrained s)
    (hlaunch : s.pool.tally (·.isLaunching) = 0) : QueueDrained t := by
  have hnone : ∀ {i : Nat} {r : Ref} {k : Key},
      s.pool.phase? i ≠ some (.startingPump r k) := fun hphase =>
    absurd (Pool.tally_eq_zero_iff.mp hlaunch _ _ hphase) nofun
  cases h with
  | requeued _ hoffer => exact absurd hoffer (DelayQueue.offer_ne_some hq.closed)
  | launched hphase | unlaunched hphase => exact absurd hphase hnone
  | retracted => exact hq.remove rfl rfl
  | _ => exact hq.congr rfl rfl

/-! ## Calls -/

/-- The delay queue is closed by the one call that has stopped the service. -/
theorem CallMove.closing (h : CallMove s duty t duty') (hs : Winding s)
    (hduty : duty.isClosing.toNat ≤ s.owing (·.isClosing) + duty'.isClosing.toNat) :
    s.owing (·.isClosing) + duty'.isClosing.toNat + t.queue.closed.toNat +
      t.lifecycle.acceptsWork.toNat = 1 + duty.isClosing.toNat := by
  have hclosing := hs.closing
  cases h with
  | @offered r queue needsPump hoffer =>
    obtain ⟨hopen, hopen', -⟩ := DelayQueue.offer_eq_some hoffer
    rw [isClosing_of_needs rfl]
    show _ + 0 + queue.closed.toNat + s.lifecycle.acceptsWork.toNat = 1 + 0
    rw [hopen', ← hopen]
    exact hclosing
  | left hrunning =>
    rw [hrunning] at hclosing
    have hone : _ + s.queue.closed.toNat + 1 = 1 := hclosing
    show _ + 1 + s.queue.closed.toNat + 0 = 1 + 0
    omega
  | closed =>
    rw [isClosing_of_needs rfl] at hduty ⊢
    have hone : 1 ≤ s.owing (·.isClosing) + 0 := hduty
    show _ + 0 + 1 + s.lifecycle.acceptsWork.toNat = 1 + 1
    omega
  | asked mayInterrupt hfree =>
    have hnone : duty'.isClosing = false := by
      rcases hfree with ⟨rfl, -⟩ | ⟨_, _, _, rfl⟩ <;> rfl
    rw [hnone]
    exact hclosing
  | removed | retracted =>
    rw [(DelayQueue.remove_entries ..).2.1]
    exact hclosing
  | _ => exact hclosing

theorem CallMove.keeps_late (h : CallMove s duty t duty') (ht : t.Late) : s.Late := by
  have hclosing := h.setup.closing
  rcases ht with hpump | hpool | hlife
  · cases h <;> first | exact .inl hpump | cases hpump
  · exact .inr (.inl (hclosing ▸ hpool))
  · cases h <;> first | exact .inr (.inr hlife) | cases hlife

theorem CallMove.keeps_over (h : CallMove s duty t duty') (ht : t.Over) : s.Over := by
  rcases ht with hpump | hlife
  · cases h <;> first | exact .inl hpump | cases hpump
  · cases h <;> first | exact .inr hlife | cases hlife

/-! ## The pump -/

theorem PumpMove.closing (h : PumpMove s t) (hs : Winding s) :
    t.owing (·.isClosing) + t.queue.closed.toNat + t.lifecycle.acceptsWork.toNat = 1 := by
  have howing : t.owing (·.isClosing) = s.owing (·.isClosing) := by rw [owing, owing, h.calls]
  rw [howing]
  have hclosing := hs.closing
  cases h with
  | concluded hpump =>
    have hdrained := hs.late (Over.late (.inl hpump))
    rw [(hdrained.not_accepting hs).2] at hclosing
    exact hclosing
  | returned _ =>
    rw [(DelayQueue.putBack_entries ..).2.1]
    exact hclosing
  | _ => exact hclosing

/-- The pump sees the end of the delay queue only when it is drained. -/
theorem PumpMove.keeps_late (h : PumpMove s t) (ht : t.Late) : s.Late ∨ QueueDrained t := by
  have hgoes : t.pump.any (!·.isConsumer) = false → t.pool.closing = s.pool.closing →
      t.lifecycle = s.lifecycle → s.Late ∨ QueueDrained t := by
    intro hpump hclosing hlife
    rcases ht with ht | ht | ht
    · rw [hpump] at ht
      cases ht
    · exact .inl (.inr (.inl (hclosing ▸ ht)))
    · exact .inl (.inr (.inr (hlife ▸ ht)))
  have hlate : ∀ {phase : PumpPhase}, s.pump = some phase → phase.isConsumer = false →
      s.Late ∨ QueueDrained t := by
    intro phase hpump hphase
    refine .inl (.inl ?_)
    rw [hpump, Option.any_some, hphase]
    rfl
  cases h with
  | drained _ hentries hclosed => exact .inr ⟨hclosed, hentries, rfl, rfl⟩
  | stopped hpump _ => exact hlate hpump rfl
  | sawDrained hpump _ => exact hlate hpump rfl
  | concluded hpump => exact hlate hpump rfl
  | wentOn _ hnext =>
    obtain ⟨r, -, hnext⟩ := hnext.record
    refine hgoes ?_ rfl rfl
    rw [Option.any_some, isConsumer_of_record hnext]
    rfl
  | noted _ hafter =>
    refine hgoes ?_ rfl rfl
    rw [Option.any_some, isConsumer_of_record hafter.record]
    rfl
  | handedOver choice _ _ => exact hgoes rfl (Pool.execute_closing ..) rfl
  | refused choice _ _ => exact hgoes rfl (Pool.execute_closing ..) rfl
  | unwound choice _ _ => exact hgoes rfl (Pool.execute_closing ..) rfl
  | @withdrew r failure hpump =>
    exact hgoes rfl (Pool.act_closing (.withdraw r) nofun rfl) rfl
  | _ => exact hgoes rfl rfl rfl

/-- The pump sees the end of the pool only when it is drained. -/
theorem PumpMove.keeps_over (h : PumpMove s t) (ht : t.Over) :
    s.Over ∨ (s.pool.hasDrained = true ∧ t.pool = s.pool) := by
  have hgoes : t.pump ≠ some .marking → t.lifecycle = s.lifecycle →
      s.Over ∨ (s.pool.hasDrained = true ∧ t.pool = s.pool) := by
    intro hpump hlife
    rcases ht with ht | ht
    · exact absurd ht hpump
    · exact .inl (.inr (hlife ▸ ht))
  cases h with
  | sawDrained _ hdrained => exact .inr ⟨hdrained, rfl⟩
  | concluded hpump => exact .inl (.inl hpump)
  | wentOn _ hnext =>
    obtain ⟨r, -, hnext⟩ := hnext.record
    refine hgoes (fun hpump => ?_) rfl
    cases hpump
    cases hnext
  | noted _ hafter =>
    refine hgoes (fun hpump => ?_) rfl
    cases hpump
    cases hafter
  | stopped _ hnext =>
    refine hgoes (fun hpump => ?_) rfl
    rcases hnext with rfl | ⟨failure, rfl⟩ <;> cases hpump
  | _ => exact hgoes nofun rfl

/-! ## Workers -/

theorem WorkerMove.closing (h : WorkerMove s a t) (hs : Winding s) :
    t.owing (·.isClosing) + t.queue.closed.toNat + t.lifecycle.acceptsWork.toNat = 1 := by
  have howing : t.owing (·.isClosing) = s.owing (·.isClosing) := by rw [owing, owing, h.calls]
  rw [howing]
  have hclosing := hs.closing
  cases h with
  | @requeued i r queue needsPump _ hoffer =>
    obtain ⟨hopen, hopen', -⟩ := DelayQueue.offer_eq_some hoffer
    show _ + queue.closed.toNat + s.lifecycle.acceptsWork.toNat = 1
    rw [hopen', ← hopen]
    exact hclosing
  | retracted _ =>
    rw [(DelayQueue.remove_entries ..).2.1]
    exact hclosing
  | _ => exact hclosing

theorem WorkerMove.keeps_late (h : WorkerMove s a t) (ht : t.Late) : s.Late := by
  rcases ht with hpump | hpool | hlife
  · cases h <;> first | exact .inl hpump | cases hpump
  · exact .inr (.inl (h.setup.closing ▸ hpool))
  · cases h <;> exact .inr (.inr hlife)

theorem WorkerMove.keeps_over (h : WorkerMove s a t) (ht : t.Over) : s.Over := by
  rcases ht with hpump | hlife
  · cases h <;> first | exact .inl hpump | cases hpump
  · cases h <;> exact .inr hlife

/-! ## Runs -/

theorem OwnerMove.pool_closing (h : OwnerMove s t) : t.pool.closing = s.pool.closing := by
  cases h with
  | resized size => exact Pool.act_closing (.setCoreSize size) nofun rfl
  | prestarted count => exact Pool.act_closing (.prestart count) nofun rfl
  | refactored factory => rfl

theorem Move.queueDrained (h : Move s a t) (hconsumer : Consumer s) (hs : Winding s)
    (hq : QueueDrained s) : QueueDrained t := by
  have hlaunchers : s.owing (·.isLaunching) + s.pool.tally (·.isLaunching) = 0 :=
    (hconsumer.known hq.consumerActive).1
  rcases h.kinds with ⟨u, duty, duty', hcall, howes, ht⟩ | hpump | hworker | howner | ⟨now, rfl⟩
  · have hnone := (hq.not_accepting hs).1
    have howing := howes.count (·.isClosing) rfl
    have hle := howes.le (f := (·.isLaunching)) rfl
    have hu := hcall.queueDrained hq (by omega) (Bool.toNat_eq_zero.mp (by omega))
    rw [ht]
    exact hu.congr rfl rfl
  · exact hpump.queueDrained hq
  · exact hworker.queueDrained hq (by omega)
  · cases howner <;> exact hq.congr rfl rfl
  · exact hq.congr rfl rfl

theorem Move.closing (h : Move s a t) (hs : Winding s) :
    t.owing (·.isClosing) + t.queue.closed.toNat + t.lifecycle.acceptsWork.toNat = 1 := by
  rcases h.kinds with ⟨u, duty, duty', hcall, howes, ht⟩ | hpump | hworker | howner | ⟨now, rfl⟩
  · have howing := howes.count (·.isClosing) rfl
    have hbalance := hcall.closing hs (by omega)
    have hqueue : t.queue = u.queue := by rw [ht]
    have hlife : t.lifecycle = u.lifecycle := by rw [ht]
    rw [hqueue, hlife]
    omega
  · exact hpump.closing hs
  · exact hworker.closing hs
  · cases howner <;> exact hs.closing
  · exact hs.closing

theorem Move.keeps_late (h : Move s a t) (ht : t.Late) : s.Late ∨ QueueDrained t := by
  rcases h.kinds with ⟨u, _, _, hcall, -, heq⟩ | hpump | hworker | howner | ⟨now, rfl⟩
  · rw [heq] at ht
    exact .inl (hcall.keeps_late ht)
  · exact hpump.keeps_late ht
  · exact .inl (hworker.keeps_late ht)
  · rcases ht with hpump | hpool | hlife
    · cases howner <;> exact .inl (.inl hpump)
    · exact .inl (.inr (.inl (howner.pool_closing ▸ hpool)))
    · cases howner <;> exact .inl (.inr (.inr hlife))
  · exact .inl ht

theorem Move.keeps_over (h : Move s a t) (ht : t.Over) :
    s.Over ∨ (s.pool.hasDrained = true ∧ t.pool = s.pool) := by
  rcases h.kinds with ⟨u, _, _, hcall, -, heq⟩ | hpump | hworker | howner | ⟨now, rfl⟩
  · rw [heq] at ht
    exact .inl (hcall.keeps_over ht)
  · exact hpump.keeps_over ht
  · exact .inl (hworker.keeps_over ht)
  · cases howner <;> exact .inl ht
  · exact .inl ht

theorem Winding.move (hs : Winding s) (hconsumer : Consumer s) (hpool : s.pool.Coherent)
    (h : Move s a t) : Winding t where
  closing := h.closing hs
  late := by
    intro ht
    rcases h.keeps_late ht with hlate | hdrained
    · exact h.queueDrained hconsumer hs (hs.late hlate)
    · exact hdrained
  ended := by
    intro ht
    rcases h.keeps_over ht with hover | ⟨hdrained, hsame⟩
    · rcases h.pool_act with hsame | ⟨op, hact⟩
      · rw [hsame]
        exact hs.ended hover
      · exact Pool.act_hasDrained hpool (hs.ended hover) hact
    · rw [hsame]
      exact hdrained

/-- The delay queue is closed only once, by the call that owes it. -/
theorem Winding.open_of_closing (hs : Winding s) (howes : Discharges s t duty duty')
    (hduty : duty = .closing) : s.queue.closed = false := by
  subst hduty
  have hone : 1 ≤ s.owing (·.isClosing) := howes.le (f := (·.isClosing)) rfl
  have hclosing := hs.closing
  exact Bool.toNat_eq_zero.mp (by omega)

theorem Move.shift (h : Move s a t) (hlast : LastStart s) (hs : Winding s) : Shift s t := by
  rcases h.kinds with ⟨u, duty, duty', hcall, howes, ht⟩ | hpump | hworker | howner | ⟨now, rfl⟩
  · exact hcall.shift howes ht hlast fun hduty => hs.open_of_closing howes hduty
  · exact hpump.shift
  · exact hworker.shift
  · exact howner.shift
  · exact .kept rfl rfl rfl fun h => h

theorem Reachable.lastStart (h : Reachable s) : LastStart s := by
  refine h.of_moves (P := LastStart) (fun _ => rfl) (fun _ _ _ _ _ => nofun) ?_
  intro s t a _ hs hmove
  rcases hmove.kinds with ⟨u, _, _, hcall, howes, ht⟩ | hpump | hworker | howner | ⟨now, rfl⟩
  · exact hcall.lastStart howes ht hs
  · exact hpump.lastStart hs
  · exact hworker.lastStart hs
  · cases howner <;> exact hs
  · exact hs

theorem Reachable.consumer_winding (h : Reachable s) : Consumer s ∧ Winding s := by
  refine h.of_moves (P := fun s => Consumer s ∧ Winding s) ?_ ?_ ?_
  · intro u
    refine propext ⟨fun ⟨hc, hw⟩ => ⟨⟨hc.single, hc.known⟩, hw.closing, ?_, hw.ended⟩,
      fun ⟨hc, hw⟩ => ⟨⟨hc.single, hc.known⟩, hw.closing, ?_, hw.ended⟩⟩
    · exact fun hlate => (hw.late hlate).congr rfl rfl
    · exact fun hlate => (hw.late hlate).congr rfl rfl
  · intro host name config clockEnd now
    refine ⟨⟨Nat.zero_le _, fun _ => ⟨rfl, fun _ => rfl⟩⟩, rfl, ?_, ?_⟩
    · rintro (hpump | hpool | hlife)
      · cases hpump
      · cases hpool
      · cases hlife
    · rintro (hpump | hlife)
      · cases hpump
      · cases hlife
  · intro s t a hreach ⟨hc, hw⟩ hmove
    exact ⟨hc.shift (hmove.shift hreach.lastStart hw), hw.move hc hreach.pool_coherent hmove⟩

theorem Reachable.consumer (h : Reachable s) : Consumer s := h.consumer_winding.1

theorem Reachable.winding (h : Reachable s) : Winding s := h.consumer_winding.2

/-- The last stage of the service is never left. -/
theorem Move.terminated (h : Move s a t) (hs : s.lifecycle = .terminated) :
    t.lifecycle = .terminated := by
  rcases h.kinds with ⟨u, _, _, hcall, -, heq⟩ | hpump | hworker | howner | ⟨now, rfl⟩
  · rw [heq]
    cases hcall with
    | left hrunning =>
      rw [hs] at hrunning
      cases hrunning
    | _ => exact hs
  · cases hpump <;> first | exact hs | rfl
  · cases hworker <;> exact hs
  · cases howner <;> exact hs
  · exact hs

end System

end TaskScheduler
