import TaskScheduler.Proofs.Evolution
import TaskScheduler.Proofs.Run

/-
  Pumps that are refused.

  `denied` counts those who have been refused a pump and are not through with it. Where the
  operating system refuses no pump there are none (`exec_denied_eq_zero`).
-/
namespace TaskScheduler

/-- The call has to start the pump. -/
def Duty.isLaunching : Duty → Bool
  | launching _ => true
  | _ => false

/-- The call is to start a pump for the record. -/
def Duty.launches (r : Ref) : Duty → Bool
  | launching (some (r', _)) => r' == r
  | _ => false

/-- The worker has to start the pump. -/
def WorkerPhase.isLaunching : WorkerPhase → Bool
  | startingPump .. => true
  | _ => false

/-- The pump that the worker was to start has been refused. -/
def WorkerPhase.followsRefusal : WorkerPhase → Bool
  | retracting .. | rejecting .. => true
  | _ => false

/-- The operating system refuses the thread of a pump. -/
def Action.refusesPump {α : Type} : Action α → Bool
  | callRefused .. | workerRefused .. => true
  | _ => false

namespace System

variable {α : Type} {s s' t : System α} {a : Action α} {duty duty' : Duty}

/-- Those who have been refused a pump and have not yet drawn all conclusions from it. -/
def denied (s : System α) : Nat :=
  s.owing (·.followsRefusal) + s.pool.tally (·.followsRefusal)

/-- Only a call that has to start a pump comes to be refused it. -/
theorem CallMove.launching_of_refusal (h : CallMove s duty t duty')
    (hduty : duty'.followsRefusal = true) : duty.isLaunching = true := by
  cases h with
  | unlaunched _ _ | replacedLast _ _ => rfl
  | offered _ | closed => split at hduty <;> cases hduty
  | asked _ hfree => rcases hfree with ⟨rfl, -⟩ | ⟨_, _, _, rfl⟩ <;> cases hduty
  | _ => cases hduty

/-- Only when there is no pump can one be refused. -/
theorem CallMove.unmanned_of_refusal (h : CallMove s duty t duty')
    (hduty : duty'.followsRefusal = true) : s.pump = none := by
  cases h with
  | unlaunched hpump _ | replacedLast hpump _ => exact hpump
  | offered _ | closed => split at hduty <;> cases hduty
  | asked _ hfree => rcases hfree with ⟨rfl, -⟩ | ⟨_, _, _, rfl⟩ <;> cases hduty
  | _ => cases hduty

theorem Move.unmanned_of_refusal (h : Move s a t) (ha : a.refusesPump = true) : s.pump = none := by
  cases h with
  | callRefused _ hcall hduty => exact hcall.unmanned_of_refusal hduty
  | worked hworker =>
    cases hworker with
    | unlaunched _ hpump _ => exact hpump
    | _ => cases ha
  | declined hdeclined => rcases hdeclined with rfl | ⟨_, rfl⟩ <;> cases ha
  | _ => cases ha

/-- A refused start of the pump leaves the records and the pool alone. -/
theorem CallMove.refused_frame (h : CallMove s duty t duty')
    (hduty : duty'.followsRefusal = true) :
    t.records = s.records ∧ t.pool = s.pool ∧ t.queue = s.queue.releaseConsumer := by
  cases h with
  | unlaunched _ _ | replacedLast _ _ => exact ⟨rfl, rfl, rfl⟩
  | offered _ | closed => split at hduty <;> cases hduty
  | asked _ hfree => rcases hfree with ⟨rfl, -⟩ | ⟨_, _, _, rfl⟩ <;> cases hduty
  | _ => cases hduty

section

variable {f : Duty → Bool} {g : WorkerPhase → Bool}

/-- Workers come to what follows from a refusal only by that refusal. -/
theorem WorkerMove.tally_refused (h : WorkerMove s a t)
    (hfollows : ∀ phase, phase.followsRefusal = false → g phase = false)
    (hrejects : ∀ r k reason, g (.rejecting r reason) = g (.retracting r k reason))
    (ha : ∀ i reason r k, a = .workerRefused i reason →
      s.pool.phase? i = some (.startingPump r k) → g (.retracting r k reason) = false)
    (hs : s.pool.tally g = 0) : t.pool.tally g = 0 := by
  have hgoes : ∀ {i : Nat} {old new : WorkerPhase}, s.pool.phase? i = some old →
      t.pool = s.pool.setPhase i new → g new = false → t.pool.tally g = 0 := by
    intro i old new hphase hpool hnew
    have htally := Pool.tally_setPhase hphase new g
    rw [hnew, Bool.toNat_false] at htally
    rw [hpool]
    omega
  cases h with
  | @looked i pool hlook =>
    obtain ⟨old, new, -, htally, hnew⟩ := Pool.look_tally hlook
    have hnone : g new = false := by
      refine hfollows _ ?_
      rcases hnew with ⟨-, rfl | rfl⟩ | ⟨r, -, rfl⟩ <;> rfl
    have hbalance := htally g
    rw [hnone, Bool.toNat_false] at hbalance
    show pool.tally g = 0
    omega
  | expired hexpire =>
    exact ((Pool.expire_tally hexpire).2 _ (hfollows _ rfl) (hfollows _ rfl)).trans hs
  | counted hcount =>
    exact ((Pool.countRun_tally hcount).2 _ (fun _ => hfollows _ rfl) (hfollows _ rfl)).trans hs
  | requeued hphase _ =>
    refine hgoes hphase rfl (hfollows _ ?_)
    split <;> rfl
  | unlaunched hphase _ _ => exact hgoes hphase rfl (ha _ _ _ _ rfl hphase)
  | retracted hphase =>
    refine hgoes hphase rfl ?_
    rw [hrejects]
    exact Pool.tally_eq_zero_iff.mp hs _ _ hphase
  | rejected hphase => exact hgoes hphase rfl (hfollows _ rfl)
  | began hphase _ _ => exact hgoes hphase rfl (hfollows _ rfl)
  | passedOver hphase _ => exact hgoes hphase rfl (hfollows _ rfl)
  | entered hphase _ => exact hgoes hphase rfl (hfollows _ rfl)
  | spent hphase _ => exact hgoes hphase rfl (hfollows _ rfl)
  | finished hphase _ => exact hgoes hphase rfl (hfollows _ rfl)
  | rescheduled hphase _ _ => exact hgoes hphase rfl (hfollows _ rfl)
  | refused hphase _ => exact hgoes hphase rfl (hfollows _ rfl)
  | gaveUp hphase => exact hgoes hphase rfl (hfollows _ rfl)
  | launched hphase _ _ => exact hgoes hphase rfl (hfollows _ rfl)

/-- Calls come to what follows from a refusal only by that refusal. -/
theorem Move.owing_refused (h : Move s a t)
    (hfollows : ∀ duty, duty.followsRefusal = false → f duty = false)
    (ha : ∀ i reason call u duty', a = .callRefused i reason → s.calls[i]? = some call →
      CallMove s call.duty u duty' → f duty' = false)
    (hs : s.owing f = 0) : t.owing f = 0 := by
  have hcalls : ∀ {duty duty' : Duty}, t.owing f + (f duty).toNat = s.owing f + (f duty').toNat →
      f duty' = false → t.owing f = 0 := by
    intro duty duty' hcount hduty
    rw [hduty, Bool.toNat_false] at hcount
    omega
  cases h with
  | begun hcall =>
    refine hcalls ((discharges_begun hcall.calls).count _ (hfollows _ rfl)) (hfollows _ ?_)
    cases hduty : (Call.duty _).followsRefusal with
    | false => rfl
    | true => cases hcall.launching_of_refusal hduty
  | called hi hcall hduty =>
    exact hcalls ((discharges_called hcall.calls hi).count _ (hfollows _ rfl)) (hfollows _ hduty)
  | callRefused hi hcall hduty =>
    exact hcalls ((discharges_called hcall.calls hi).count _ (hfollows _ rfl))
      (ha _ _ _ _ _ rfl hi hcall)
  | pumped hpump | pumpIdled hpump | pumpFaulted hpump =>
    rw [owing, hpump.calls]
    exact hs
  | worked hworker =>
    rw [owing, hworker.calls]
    exact hs
  | _ => exact hs

theorem Move.tally_refused (h : Move s a t)
    (hfollows : ∀ phase, phase.followsRefusal = false → g phase = false)
    (hrejects : ∀ r k reason, g (.rejecting r reason) = g (.retracting r k reason))
    (ha : ∀ i reason r k, a = .workerRefused i reason →
      s.pool.phase? i = some (.startingPump r k) → g (.retracting r k reason) = false)
    (hs : s.pool.tally g = 0) : t.pool.tally g = 0 := by
  have hcalm : ∀ {u : System α}, CallsPool s u → t.pool = u.pool → t.pool.tally g = 0 := by
    intro u hcalls hpool
    rw [hpool]
    exact (hcalls.calm g (hfollows _ rfl) (hfollows _ rfl) (hfollows _ rfl)).trans hs
  rcases h.kinds with ⟨u, _, _, hcall, -, ht⟩ | hpump | hworker | howner | ⟨now, rfl⟩
  · exact hcalm hcall.callsPool (by rw [ht])
  · exact hcalm hpump.callsPool rfl
  · exact hworker.tally_refused hfollows hrejects ha hs
  · exact hcalm howner.callsPool rfl
  · exact hs

end

theorem Move.denied_eq_zero (h : Move s a t) (ha : a.refusesPump = false)
    (hs : s.denied = 0) : t.denied = 0 := by
  obtain ⟨howing, htally⟩ := Nat.add_eq_zero_iff.mp hs
  refine Nat.add_eq_zero_iff.mpr ⟨?_, ?_⟩
  · refine h.owing_refused (fun _ h => h) ?_ howing
    rintro i reason call u duty' rfl
    cases ha
  · refine h.tally_refused (fun _ h => h) (fun _ _ _ => rfl) ?_ htally
    rintro i reason r k rfl
    cases ha

theorem step_pumpNameFault? (hstep : s.step a = some s') :
    s'.pumpNameFault? = s.pumpNameFault? := by
  rw [pumpNameFault?, step_name hstep, pumpNameFault?]

theorem exec_pumpNameFault? {actions : List (Action α)} (hrun : s.exec actions = some t) :
    t.pumpNameFault? = s.pumpNameFault? := by
  rw [pumpNameFault?, exec_name hrun, pumpNameFault?]

theorem step_denied_eq_zero (hstep : s.step a = some s')
    (ha : a.refusesPump = false) (hs : s.denied = 0) : s'.denied = 0 :=
  step_of_move (P := fun s => s.denied = 0) (fun _ => rfl)
    (fun hmove => hmove.denied_eq_zero ha hs) hstep

/-- A run in which no pump is refused leaves nobody behind who has been refused one. -/
theorem exec_denied_eq_zero {actions : List (Action α)} (hs : s.denied = 0)
    (hactions : ∀ a ∈ actions, a.refusesPump = false) (hrun : s.exec actions = some t) :
    t.denied = 0 := by
  refine exec_keeps (P := fun s => s.denied = 0) ?_ hs hrun
  intro s s' a ha hs hstep
  exact step_denied_eq_zero hstep (hactions a ha) hs

/-- Who has been refused a pump was so by one of the actions. -/
theorem exec_refused {actions : List (Action α)} (hs : s.denied = 0)
    (hrun : s.exec actions = some t) (hpos : 0 < t.denied) :
    ∃ a ∈ actions, a.refusesPump = true := by
  cases hany : actions.any (·.refusesPump) with
  | true => exact List.any_eq_true.mp hany
  | false =>
    have hnone := exec_denied_eq_zero hs
      (fun a ha => eq_false_of_ne_true (List.any_eq_false.mp hany a ha)) hrun
    omega

end System

end TaskScheduler
