import TaskScheduler.Proofs.DelayQueue
import TaskScheduler.Proofs.Refusal

/-
  The consumer of the delay queue.

  Those who serve the delay queue are counted: `launchers` are about to start the pump, and
  `consumers` is the pump itself until it has seen the queue idle or closed for good. `Shift` says
  what becomes of the two counts, with one constructor for each way in which someone comes or goes;
  `CallMove.shift`, `PumpMove.shift` and `WorkerMove.shift`: nothing else happens to them.

  `Consumer`: there are never two, and a queue that knows of none has none. Only the caller who has
  closed it, and has found that no pump can be started, serves it without its knowledge.
  `Manned`: the queue knows exactly of those there are. This needs all pumps to be started.
-/
namespace TaskScheduler.System

variable {α : Type} {s t u : System α} {a : Action α} {duty duty' : Duty}

/-- Those who have to start the pump. -/
def launchers (s : System α) : Nat := s.owing (·.isLaunching) + s.pool.tally (·.isLaunching)

/-- The pump, if it has not yet seen the delay queue idle or closed for good. -/
def consumers (s : System α) : Nat := (s.pump.any (·.isConsumer)).toNat

theorem isConsumer_of_record {phase : PumpPhase} {r : Ref} (h : phase.record? = some r) :
    phase.isConsumer = true := by
  cases phase <;> first | rfl | cases h

theorem consumers_of_none (h : s.pump = none) : s.consumers = 0 := by rw [consumers, h]; rfl

theorem consumers_of_waiting (h : s.pump = some .waiting) : s.consumers = 1 := by
  rw [consumers, h]
  rfl

theorem consumers_congr (h : t.pump = s.pump) : t.consumers = s.consumers := by
  rw [consumers, consumers, h]

/-! ## Who comes and who goes -/

/-- What becomes of those who serve the delay queue. -/
inductive Shift (s t : System α) : Prop where
  | kept : t.launchers = s.launchers → t.consumers = s.consumers →
      t.queue.consumerActive = s.queue.consumerActive →
      (t.queue.closed = false → s.queue.closed = false) → Shift s t
  /-- An open queue without a consumer hears that a pump will be started. -/
  | reserved : s.queue.consumerActive = false → s.queue.closed = false →
      t.launchers = s.launchers + 1 → t.consumers = s.consumers →
      t.queue.consumerActive = true → Shift s t
  | launched : s.pump = none → t.launchers + 1 = s.launchers → t.consumers = 1 →
      t.queue.consumerActive = s.queue.consumerActive → Shift s t
  /-- A start is refused, and the queue hears that no pump will come. -/
  | released : s.pump = none → t.launchers + 1 = s.launchers → t.consumers = 0 →
      t.queue.consumerActive = false → 0 < t.denied → Shift s t
  /-- The start of the last pump is refused, and the caller takes its place. -/
  | replaced : s.pump = none → t.launchers + 1 = s.launchers → t.consumers = 1 →
      t.queue.closed = true → 0 < t.denied → Shift s t
  /-- A start ends in a panic, since the pump cannot have its name. -/
  | misnamed : s.pumpNameFault? ≠ none → t.launchers + 1 = s.launchers →
      t.consumers = s.consumers → t.queue.consumerActive = s.queue.consumerActive → Shift s t
  /-- The pump has seen the queue idle, or closed for good. -/
  | left : s.consumers = 1 → t.consumers = 0 → t.launchers = s.launchers →
      t.queue.consumerActive = false → Shift s t

/-- What is always so of those who serve the delay queue. -/
structure Consumer (s : System α) : Prop where
  single : s.launchers + s.consumers ≤ 1
  known : s.queue.consumerActive = false →
    s.launchers = 0 ∧ (s.queue.closed = false → s.consumers = 0)

theorem Consumer.active (h : Consumer s) (hpos : 0 < s.launchers) :
    s.queue.consumerActive = true := by
  cases hactive : s.queue.consumerActive with
  | true => rfl
  | false =>
    have := (h.known hactive).1
    omega

theorem Consumer.shift (hs : Consumer s) (h : Shift s t) : Consumer t := by
  have hsingle := hs.single
  -- Whoever has to start the pump is known, so a queue that knows of none has lost nobody.
  have hlost : t.launchers + 1 = s.launchers →
      t.queue.consumerActive = s.queue.consumerActive → t.queue.consumerActive ≠ false := by
    intro hlaunchers hsame hactive
    rw [hsame, hs.active (by omega)] at hactive
    cases hactive
  cases h with
  | kept hlaunchers hconsumers hactive hopen =>
    refine ⟨by omega, fun hnone => ?_⟩
    obtain ⟨hzero, hnobody⟩ := hs.known (hactive ▸ hnone)
    exact ⟨by omega, fun h => hconsumers.trans (hnobody (hopen h))⟩
  | reserved hnone hopen hlaunchers hconsumers hactive =>
    obtain ⟨hzero, hnobody⟩ := hs.known hnone
    have := hnobody hopen
    refine ⟨by omega, fun hinactive => ?_⟩
    rw [hactive] at hinactive
    cases hinactive
  | launched hpump hlaunchers hconsumers hsame =>
    exact ⟨by omega, fun hnone => absurd hnone (hlost hlaunchers hsame)⟩
  | released hpump hlaunchers hconsumers _ _ =>
    exact ⟨by omega, fun _ => ⟨by omega, fun _ => hconsumers⟩⟩
  | replaced hpump hlaunchers hconsumers hclosed _ =>
    refine ⟨by omega, fun _ => ⟨by omega, fun hopen => ?_⟩⟩
    rw [hclosed] at hopen
    cases hopen
  | misnamed _ hlaunchers hconsumers hsame =>
    exact ⟨by omega, fun hnone => absurd hnone (hlost hlaunchers hsame)⟩
  | left hone hnone hlaunchers _ => exact ⟨by omega, fun _ => ⟨by omega, fun _ => hnone⟩⟩

/-- The delay queue knows of a consumer exactly if there is one. -/
def Manned (s : System α) : Prop := s.launchers + s.consumers = s.queue.consumerActive.toNat

theorem Manned.shift (hs : Manned s) (h : Shift s t) (hname : s.pumpNameFault? = none)
    (hnone : t.denied = 0) : Manned t := by
  have hle := Bool.toNat_le s.queue.consumerActive
  unfold Manned at hs ⊢
  cases h with
  | kept hlaunchers hconsumers hactive _ => rw [hlaunchers, hconsumers, hactive, hs]
  | reserved hinactive _ hlaunchers hconsumers hactive =>
    rw [hinactive, Bool.toNat_false] at hs
    rw [hactive, Bool.toNat_true]
    omega
  | launched hpump hlaunchers hconsumers hsame =>
    have := consumers_of_none hpump
    rw [hsame]
    omega
  | released _ _ _ _ hpos | replaced _ _ _ _ hpos => omega
  | misnamed hfault => exact absurd hname hfault
  | left hone hzero hlaunchers hinactive =>
    rw [hinactive, Bool.toNat_false]
    omega

/-! ## Calls -/

/-- A call that has to start the last pump has closed the delay queue. -/
def LastStart (s : System α) : Prop :=
  0 < s.owing (· == .launching none) → s.queue.closed = true

theorem CallMove.lastStart (h : CallMove s duty u duty') (howes : Discharges s t duty duty')
    (ht : t = { u with calls := t.calls }) (hs : LastStart s) : LastStart t := by
  have hqueue : t.queue = u.queue := by rw [ht]
  have hcount := howes.count (· == .launching none) rfl
  have hkept : duty' ≠ .launching none → u.queue.closed = s.queue.closed → LastStart t := by
    intro hduty hclosed hpos
    rw [beq_false_of_ne hduty, Bool.toNat_false] at hcount
    rw [hqueue, hclosed]
    exact hs (by omega)
  cases h with
  | offered hoffer =>
    obtain ⟨hopen, hopen', -⟩ := DelayQueue.offer_eq_some hoffer
    refine hkept ?_ (hopen'.trans hopen.symm)
    split <;> nofun
  | closed => exact fun _ => by rw [hqueue]; rfl
  | asked _ hduty =>
    refine hkept ?_ rfl
    rcases hduty with ⟨rfl, -⟩ | ⟨_, _, _, rfl⟩ <;> nofun
  | removed | retracted => exact hkept nofun (DelayQueue.remove_entries ..).2.1
  | _ => exact hkept nofun rfl

theorem PumpMove.lastStart (h : PumpMove s t) (hs : LastStart s) : LastStart t := by
  rw [LastStart, owing, h.calls]
  cases h with
  | returned _ => exact fun hpos => (DelayQueue.putBack_entries ..).2.1.trans (hs hpos)
  | _ => exact hs

theorem WorkerMove.lastStart (h : WorkerMove s a t) (hs : LastStart s) : LastStart t := by
  rw [LastStart, owing, h.calls]
  cases h with
  | requeued _ hoffer =>
    obtain ⟨hopen, hopen', -⟩ := DelayQueue.offer_eq_some hoffer
    exact fun hpos => (hopen'.trans hopen.symm).trans (hs hpos)
  | retracted _ => exact fun hpos => (DelayQueue.remove_entries ..).2.1.trans (hs hpos)
  | _ => exact hs

theorem CallMove.shift (h : CallMove s duty u duty') (howes : Discharges s t duty duty')
    (ht : t = { u with calls := t.calls }) (hlast : LastStart s)
    (hopen : duty = .closing → s.queue.closed = false) : Shift s t := by
  have hlaunches : t.launchers + duty.isLaunching.toNat =
      s.launchers + duty'.isLaunching.toNat := by
    have howing : t.owing (·.isLaunching) + duty.isLaunching.toNat =
        s.owing (·.isLaunching) + duty'.isLaunching.toNat := howes.count (·.isLaunching) rfl
    have htally : u.pool.tally (·.isLaunching) = s.pool.tally (·.isLaunching) :=
      h.callsPool.calm _ rfl rfl rfl
    have hpool : t.pool = u.pool := by rw [ht]
    rw [launchers, launchers, hpool, htally]
    omega
  have hrefused : duty.followsRefusal.toNat = 0 → duty'.followsRefusal.toNat = 1 →
      0 < t.denied := by
    intro hbefore hafter
    have := howes.count (·.followsRefusal) rfl
    rw [denied]
    omega
  have hqueue : t.queue = u.queue := by rw [ht]
  have hpump : t.pump = u.pump := by rw [ht]
  have hconsumers : t.consumers = u.consumers := consumers_congr hpump
  have hkept : duty'.isLaunching = duty.isLaunching → u.pump = s.pump →
      u.queue.consumerActive = s.queue.consumerActive → u.queue.closed = s.queue.closed →
      Shift s t := by
    intro hduty hsame hactive hclosed
    rw [hduty] at hlaunches
    exact .kept (Nat.add_right_cancel hlaunches) (hconsumers.trans (consumers_congr hsame))
      (hqueue ▸ hactive) fun h => hclosed ▸ hqueue ▸ h
  cases h with
  | offered hoffer =>
    obtain ⟨hbefore, hafter, hactive, rfl, -⟩ := DelayQueue.offer_eq_some hoffer
    cases hknown : s.queue.consumerActive with
    | true =>
      rw [hknown] at hlaunches
      exact .kept hlaunches hconsumers (hqueue ▸ hactive.trans hknown.symm) fun _ => hbefore
    | false =>
      rw [hknown] at hlaunches
      exact .reserved hknown hbefore hlaunches hconsumers (hqueue ▸ hactive)
  | closed =>
    rw [DelayQueue.close] at hlaunches
    cases hknown : s.queue.consumerActive with
    | true =>
      rw [hknown] at hlaunches
      exact .kept hlaunches hconsumers (hqueue ▸ hknown.symm) fun _ => hopen rfl
    | false =>
      rw [hknown] at hlaunches
      exact .reserved hknown (hopen rfl) hlaunches hconsumers (by rw [hqueue]; rfl)
  | launched hnone _ | launchedLast hnone _ =>
    exact .launched hnone hlaunches (consumers_of_waiting hpump) (by rw [hqueue])
  | unlaunched hnone _ =>
    exact .released hnone hlaunches (consumers_of_none (hpump.trans hnone)) (by rw [hqueue]; rfl)
      (hrefused rfl rfl)
  | replacedLast hnone _ =>
    have hone : 1 ≤ s.owing (· == .launching none) := howes.le (f := (· == .launching none)) rfl
    exact .replaced hnone hlaunches (consumers_of_waiting hpump) (hqueue ▸ hlast hone)
      (hrefused rfl rfl)
  | misnamed hfault =>
    exact .misnamed (by rw [hfault]; nofun) hlaunches hconsumers (by rw [hqueue])
  | asked _ hduty =>
    refine hkept ?_ rfl rfl rfl
    rcases hduty with ⟨rfl, -⟩ | ⟨_, _, _, rfl⟩ <;> rfl
  | @removed r k | @retracted r k =>
    obtain ⟨-, hclosed, hactive⟩ := DelayQueue.remove_entries s.queue k
    exact hkept rfl rfl hactive hclosed
  | _ => exact hkept rfl rfl rfl rfl

/-! ## The pump -/

theorem PumpMove.shift (h : PumpMove s t) : Shift s t := by
  have hlaunchers : t.launchers = s.launchers := by
    have htally : t.pool.tally (·.isLaunching) = s.pool.tally (·.isLaunching) :=
      h.callsPool.calm _ rfl rfl rfl
    rw [launchers, launchers, htally, owing, owing, h.calls]
  -- The pump goes on as a consumer, or it was none and is none.
  have hgoes : ∀ {phase : PumpPhase} {next : Option PumpPhase}, s.pump = some phase →
      t.pump = next → next.any (·.isConsumer) = phase.isConsumer →
      t.queue.consumerActive = s.queue.consumerActive → t.queue.closed = s.queue.closed →
      Shift s t := by
    intro phase next hpump hnext hsame hactive hclosed
    refine .kept hlaunchers ?_ hactive fun h => hclosed ▸ h
    rw [consumers, consumers, hpump, hnext, hsame]
    rfl
  have hends : s.pump = some .waiting → t.pump.any (·.isConsumer) = false →
      t.queue.consumerActive = false → Shift s t := by
    intro hpump hnone hactive
    exact .left (consumers_of_waiting hpump) (by rw [consumers, hnone]; rfl) hlaunchers hactive
  cases h with
  | took hpump _ _ => exact hgoes hpump rfl rfl rfl rfl
  | idled hpump _ _ => exact hends hpump rfl rfl
  | drained hpump _ _ => exact hends hpump rfl rfl
  | passedOver hpump hrecord _ _ =>
    exact hgoes hpump rfl (isConsumer_of_record hrecord).symm rfl rfl
  | wentOn hpump hnext =>
    obtain ⟨r, hrecord, hnext⟩ := hnext.record
    refine hgoes hpump rfl ?_ rfl rfl
    rw [isConsumer_of_record hrecord, Option.any_some, isConsumer_of_record hnext]
  | noted hpump hafter =>
    refine hgoes hpump rfl ?_ rfl rfl
    rw [Option.any_some, isConsumer_of_record hafter.record]
    rfl
  | returned hpump =>
    obtain ⟨-, hclosed, hactive⟩ := DelayQueue.putBack_entries s.queue (s.isPending _) (s.key _) _
    exact hgoes hpump rfl rfl hactive hclosed
  | stopped hpump hnext =>
    rcases hnext with rfl | ⟨failure, rfl⟩
    · exact hgoes hpump rfl rfl rfl rfl
    · exact hgoes hpump rfl rfl rfl rfl
  | handedOver choice hpump _ => exact hgoes hpump rfl rfl rfl rfl
  | refused choice hpump _ => exact hgoes hpump rfl rfl rfl rfl
  | unwound choice hpump _ => exact hgoes hpump rfl rfl rfl rfl
  | gaveUp hpump => exact hgoes hpump rfl rfl rfl rfl
  | withdrew hpump => exact hgoes hpump rfl rfl rfl rfl
  | rejected hpump => exact hgoes hpump rfl rfl rfl rfl
  | postponed hpump => exact hgoes hpump rfl rfl rfl rfl
  | sawDrained hpump _ => exact hgoes hpump rfl rfl rfl rfl
  | concluded hpump => exact hgoes hpump rfl rfl rfl rfl

/-! ## Workers -/

theorem WorkerMove.shift (h : WorkerMove s a t) : Shift s t := by
  have howing : ∀ f, t.owing f = s.owing f := fun f => by rw [owing, owing, h.calls]
  -- A worker changes the counts by its own phase alone.
  have hlaunches : ∀ {i : Nat} {old new : WorkerPhase}, s.pool.phase? i = some old →
      t.pool = s.pool.setPhase i new →
      t.launchers + old.isLaunching.toNat = s.launchers + new.isLaunching.toNat := by
    intro i old new hphase hpool
    have htally := Pool.tally_setPhase hphase new (·.isLaunching)
    rw [launchers, launchers, howing, hpool]
    omega
  have hkept : t.pool.tally (·.isLaunching) = s.pool.tally (·.isLaunching) → t.pump = s.pump →
      t.queue.consumerActive = s.queue.consumerActive → t.queue.closed = s.queue.closed →
      Shift s t := by
    intro htally hpump hactive hclosed
    refine .kept ?_ (consumers_congr hpump) hactive fun h => hclosed ▸ h
    rw [launchers, launchers, howing, htally]
  have hgoes : ∀ {i : Nat} {old new : WorkerPhase}, s.pool.phase? i = some old →
      t.pool = s.pool.setPhase i new → new.isLaunching = old.isLaunching → t.pump = s.pump →
      t.queue.consumerActive = s.queue.consumerActive → t.queue.closed = s.queue.closed →
      Shift s t := by
    intro i old new hphase hpool hsame hpump hactive hclosed
    have hbalance := hlaunches hphase hpool
    rw [hsame] at hbalance
    exact .kept (Nat.add_right_cancel hbalance) (consumers_congr hpump) hactive
      fun h => hclosed ▸ h
  cases h with
  | looked hlook =>
    obtain ⟨old, new, hback, htally, hnew⟩ := Pool.look_tally hlook
    have hold : old.isLaunching = false := by cases old <;> first | rfl | cases hback
    have hnone : new.isLaunching = false := by
      rcases hnew with ⟨-, rfl | rfl⟩ | ⟨r, -, rfl⟩ <;> rfl
    have hbalance := htally (·.isLaunching)
    rw [hold, hnone] at hbalance
    exact hkept hbalance rfl rfl rfl
  | expired hexpire => exact hkept ((Pool.expire_tally hexpire).2 _ rfl rfl) rfl rfl rfl
  | counted hcount =>
    exact hkept ((Pool.countRun_tally hcount).2 _ (fun _ => rfl) rfl) rfl rfl rfl
  | requeued hphase hoffer =>
    obtain ⟨hbefore, hafter, hactive, rfl, -⟩ := DelayQueue.offer_eq_some hoffer
    have hbalance := hlaunches hphase rfl
    cases hknown : s.queue.consumerActive with
    | true =>
      rw [hknown] at hbalance
      exact .kept hbalance rfl (hactive.trans hknown.symm) fun _ => hbefore
    | false =>
      rw [hknown] at hbalance
      exact .reserved hknown hbefore hbalance rfl hactive
  | launched hphase hpump _ =>
    exact .launched hpump (hlaunches hphase rfl) (consumers_of_waiting rfl) rfl
  | @unlaunched i r k reason hphase hpump _ =>
    refine .released hpump (hlaunches hphase rfl) (consumers_of_none hpump) rfl ?_
    have htally : _ + 0 = s.pool.tally (·.followsRefusal) + 1 :=
      Pool.tally_setPhase hphase (.retracting r k reason) (·.followsRefusal)
    show 0 < _ + (s.pool.setPhase i _).tally _
    omega
  | retracted hphase =>
    obtain ⟨-, hclosed, hactive⟩ := DelayQueue.remove_entries s.queue ‹Key›
    exact hgoes hphase rfl rfl rfl hactive hclosed
  | rejected hphase => exact hgoes hphase rfl rfl rfl rfl rfl
  | began hphase _ _ => exact hgoes hphase rfl rfl rfl rfl rfl
  | passedOver hphase _ => exact hgoes hphase rfl rfl rfl rfl rfl
  | entered hphase _ => exact hgoes hphase rfl rfl rfl rfl rfl
  | spent hphase _ => exact hgoes hphase rfl rfl rfl rfl rfl
  | finished hphase _ => exact hgoes hphase rfl rfl rfl rfl rfl
  | rescheduled hphase _ _ => exact hgoes hphase rfl rfl rfl rfl rfl
  | refused hphase _ => exact hgoes hphase rfl rfl rfl rfl rfl
  | gaveUp hphase => exact hgoes hphase rfl rfl rfl rfl rfl

/-! ## The owner -/

theorem OwnerMove.shift (h : OwnerMove s t) : Shift s t := by
  have hlaunchers : t.launchers = s.launchers := by
    have htally : t.pool.tally (·.isLaunching) = s.pool.tally (·.isLaunching) :=
      h.callsPool.calm _ rfl rfl rfl
    rw [launchers, launchers, htally]
    cases h <;> rfl
  cases h <;> exact .kept hlaunchers rfl rfl fun h => h

end TaskScheduler.System
