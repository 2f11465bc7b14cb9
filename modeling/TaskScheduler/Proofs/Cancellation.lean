import TaskScheduler.Proofs.ExactlyOnce
import TaskScheduler.Proofs.Triggers
import TaskScheduler.Proofs.Window

/-
  Cancelling is atomic with respect to dispatching.

  A cancellation by a handle takes two steps. The record is cancelled, and then its entry leaves the
  delay queue, found by the key that the record had. In between, the pump, the workers and the calls
  that put records in go on. `Filed`: an entry is that of a pending record under its present key, or
  of a cancelled one that its call is yet to take out, or, if a pump has been refused, of one that
  has been rejected. `Withdrawing`: from the first step on the
  body of the record is not started, and from the second one on the delay queue is rid of it for
  good. `cancellation_is_atomic` puts this together.
-/
namespace TaskScheduler

/-- The cancellation by a handle that a call is at. -/
def Call.withdrawal? {α : Type} : Call α → Option Withdrawal
  | withdrawal stage => some stage
  | batch (.cancelling _ current _) => some current
  | _ => none

theorem Call.withdrawal?_of_duty {α : Type} {call : Call α} {r : Ref} {k : Key}
    (h : call.duty = .removing r k) : call.withdrawal? = some (.removing r k) := by
  have hstage : ∀ {stage : Withdrawal}, stage.duty = .removing r k → stage = .removing r k := by
    intro stage h
    cases stage <;> cases h
    rfl
  cases call with
  | withdrawal stage => exact congrArg some (hstage h)
  | submission stage => cases stage <;> cases h
  | retrieval stage => cases h
  | disposal stage => cases stage <;> cases h
  | batch stage =>
    cases stage with
    | cancelling error current left => exact congrArg some (hstage h)
    | submitting accepted current left => cases current <;> cases h
    | _ => cases h

namespace System

variable {α : Type} {s s' t u : System α} {a : Action α} {duty duty' : Duty} {r : Ref} {k : Key}
  {i : Nat}

/-- The cancellation by a handle that the `i`-th call is at. -/
def withdrawalAt (s : System α) (i : Nat) : Option Withdrawal :=
  (s.calls[i]?).bind (·.withdrawal?)

/-- A cancellation of the record succeeds: one by a handle, or one because the service drains. -/
def cancels (r : Ref) (s : System α) (a : Action α) (_ : System α) : Bool :=
  match a with
  | .call i _ =>
    match s.withdrawalAt i with
    | some (.asking r' mayInterrupt) => r' == r && (s.cancelRecord r mayInterrupt).2.accepted
    | _ => false
  | .pump _ => s.pump == some (.cancelling r) && (s.giveUp r).2
  | .worker i => s.pool.phase? i == some (.refused r) && (s.giveUp r).2
  | _ => false

/-- Someone is about to offer the record to the delay queue: the call that has made it, the pump, or
a worker. -/
def OnOffer (s : System α) (r : Ref) : Prop :=
  0 < s.arriving r ∨ s.pump = some (.offering r) ∨ ∃ i, s.pool.phase? i = some (.requeueing r)

/-! ## Records that are in nobody's hand -/

/-- A record in the delay queue is in nobody's hand, if it is held once. -/
theorem Sole.out_of_hand (h : Sole s r) (he : (k, r) ∈ s.queue.entries) :
    s.pumpHolds r = 0 ∧ s.pool.hands r = 0 := by
  have hqueued : 0 < s.queue.holds r :=
    List.countP_pos_iff.mpr ⟨(k, r), he, beq_self_eq_true r⟩
  have hsole : s.queue.holds r + s.pumpHolds r + (s.pool.queue.count r + s.pool.hands r) +
    s.arriving r ≤ 1 := h
  omega

theorem pump_record_ne (h : s.pumpHolds r = 0) {phase : PumpPhase} (hpump : s.pump = some phase) :
    phase.record? ≠ some r := by
  intro hrecord
  rw [pumpHolds_of_record hpump hrecord, beq_self_eq_true] at h
  cases h

theorem worker_hand_ne (h : s.pool.hands r = 0) {phase : WorkerPhase}
    (hphase : s.pool.phase? i = some phase) : phase.hand? ≠ some r :=
  ne_of_beq_false (Pool.tally_eq_zero_iff.mp h i phase hphase)

theorem postpones_eq_false (h : s.pumpHolds r = 0) : postpones r s a t = false := by
  have hnot : s.pump.any (·.isPostponing r) = false := by
    cases hpump : s.pump with
    | none => rfl
    | some phase =>
      have hrecord := pump_record_ne h hpump
      cases phase with
      | postponing r' backoff => exact beq_false_of_ne fun heq => hrecord (congrArg some heq)
      | _ => rfl
  rw [postpones, hnot, Bool.and_false, Bool.false_and]

theorem endsWell_eq_false (h : s.pool.hands r = 0) : endsWell r s a t = false := by
  cases a with
  | bodyEnds i result =>
    rw [endsWell, beq_false_of_ne fun hphase => worker_hand_ne h hphase rfl, Bool.false_and]
  | _ => rfl

/-- The pump changes the record that it has in hand; when it closes the pool it may change any. -/
theorem PumpMove.untouched (h : PumpMove s t) (hhand : s.pumpHolds r = 0)
    (hstop : s.pump ≠ some .stopping) : t.record? r = s.record? r := by
  have hother : ∀ {phase : PumpPhase} {r' : Ref} {g : Record α → Record α},
      s.pump = some phase → phase.record? = some r' → t.records = s.records.modify r' g →
      t.record? r = s.record? r := by
    intro phase r' g hpump hrecord ht
    rw [record?_of_modify ht, if_neg]
    rintro rfl
    exact pump_record_ne hhand hpump hrecord
  cases h with
  | gaveUp hpump => exact hother hpump rfl rfl
  | noted hpump _ => exact hother hpump rfl rfl
  | rejected hpump => exact hother hpump rfl rfl
  | postponed hpump => exact hother hpump rfl rfl
  | stopped hpump _ => exact absurd hpump hstop
  | _ => rfl

/-- A worker changes the record that it has in hand, or it rejects one for which it was refused a
pump. -/
theorem WorkerMove.untouched (h : WorkerMove s a t) (hhands : s.pool.hands r = 0) :
    t.record? r = s.record? r ∨
      (0 < s.condemned r ∧ ∃ reason, t.record? r = (s.record? r).map (·.reject reason |>.1)) := by
  have hother : ∀ {j : Nat} {phase : WorkerPhase} {r' : Ref} {g : Record α → Record α},
      s.pool.phase? j = some phase → phase.hand? = some r' →
      t.records = s.records.modify r' g → t.record? r = s.record? r := by
    intro j phase r' g hphase hhand ht
    rw [record?_of_modify ht, if_neg]
    rintro rfl
    exact worker_hand_ne hhands hphase hhand
  cases h with
  | began hphase _ _ => exact .inl (hother hphase rfl rfl)
  | entered hphase _ => exact .inl (hother hphase rfl rfl)
  | spent hphase _ => exact .inl (hother hphase rfl rfl)
  | finished hphase _ => exact .inl (hother hphase rfl rfl)
  | rescheduled hphase _ _ => exact .inl (hother hphase rfl rfl)
  | gaveUp hphase => exact .inl (hother hphase rfl rfl)
  | @rejected j r' reason hphase =>
    by_cases hr : r' = r
    · subst hr
      refine .inr ⟨Pool.tally_pos hphase (beq_self_eq_true r'), (pumpRefusal reason).text, ?_⟩
      rw [record?_of_modify rfl, if_pos rfl]
    · exact .inl (by rw [record?_of_modify rfl, if_neg hr])
  | _ => exact .inl rfl

/-! ## Entries -/

/-- Every entry of the delay queue is that of a pending record under its present key, or that of a
record that has been cancelled by a call which is yet to take the entry out, or that of a record
that has been rejected, if pumps may have been `refused` for it. -/
def Filed (refused : Ref → Prop) (s : System α) : Prop :=
  ∀ {k r}, (k, r) ∈ s.queue.entries → ∃ x, s.record? r = some x ∧ k = x.key ∧
    (x.state = .pending ∨ (x.state = .cancelled ∧ 0 < s.owing (· == .removing r k)) ∨
      (x.state = .failed ∧ refused r))

/-- What a call can do to a record that waits. -/
theorem CallMove.pending_record {x : Record α} (h : CallMove s duty t duty')
    (hx : s.record? r = some x) (hstate : x.state = .pending) :
    ∃ y, t.record? r = some y ∧
      (y.state = .pending ∨ (y.state = .cancelled ∧ duty' = .removing r x.key)) := by
  cases h with
  | created recurrence trigger =>
    refine ⟨x, ?_, .inl hstate⟩
    obtain ⟨hlt, -⟩ := List.getElem?_eq_some_iff.mp hx
    exact (List.getElem?_append_left hlt).trans hx
  | @asked r' mayInterrupt _ hduty =>
    by_cases hr : r' = r
    · subst hr
      rcases hduty with ⟨-, hnot⟩ | ⟨x', hx', -, hduty⟩
      · rw [isPending_iff.mpr ⟨x, hx, hstate⟩] at hnot
        cases hnot
      · obtain rfl : x = x' := Option.some.inj (hx.symm.trans hx')
        refine ⟨(x.cancel mayInterrupt).1, ?_, .inr ⟨?_, hduty⟩⟩
        · rw [record?_of_modify rfl, if_pos rfl, hx, Option.map_some]
        · rw [Record.cancel, hstate]
          rfl
    · refine ⟨x, ?_, .inl hstate⟩
      rw [record?_of_modify rfl, if_neg hr, hx]
  | @collected r' =>
    rw [record?_of_modify (r := r') (s := s) rfl, hx]
    split
    · exact ⟨_, rfl, .inl hstate⟩
    · exact ⟨x, rfl, .inl hstate⟩
  | _ => exact ⟨x, hx, .inl hstate⟩

/-- The call that has cancelled a record takes its entry out. -/
theorem CallMove.removes (h : CallMove s duty t duty') (hduty : duty = .removing r k) {r' : Ref} :
    (k, r') ∉ t.queue.entries := by
  cases h with
  | @removed r'' k' =>
    cases hduty
    show (k, r') ∉ (s.queue.remove k).1.entries
    rw [(DelayQueue.remove_entries ..).1]
    intro he
    exact of_decide_eq_true (List.mem_filter.mp he).2 rfl
  | _ => cases hduty

theorem owing_congr (h : t.calls = s.calls) (f : Duty → Bool) : t.owing f = s.owing f := by
  rw [owing, owing, h]

/-- The record of an entry that stays is as it was, or a call has cancelled it, or a worker that was
refused a pump for it has rejected it. -/
theorem Reachable.entry_record {x : Record α} (hs : Reachable s) (hsole : Sole s r)
    (hmove : Move s a t) (he : (k, r) ∈ s.queue.entries) (hx : s.record? r = some x)
    (hstate : x.state = .pending) :
    ∃ y, t.record? r = some y ∧
      (y.state = .pending ∨ (y.state = .cancelled ∧ 0 < t.owing (· == .removing r x.key)) ∨
        (y.state = .failed ∧ 0 < s.condemned r)) := by
  obtain ⟨hpumpHolds, hhands⟩ := hsole.out_of_hand he
  rcases hmove.kinds with ⟨u, duty, duty', hcall, howes, ht⟩ | hpump | hworker | howner | ⟨now, rfl⟩
  · obtain ⟨y, hy, hafter⟩ := hcall.pending_record hx hstate
    refine ⟨y, by rw [ht]; exact hy,
      hafter.imp_right fun ⟨hcancelled, hduty⟩ => .inl ⟨hcancelled, ?_⟩⟩
    have hcount := howes.count (· == .removing r x.key) rfl
    have hle := howes.le (f := (· == .removing r x.key)) rfl
    rw [hduty, beq_self_eq_true, Bool.toNat_true] at hcount
    omega
  · have hstop : s.pump ≠ some .stopping := by
      -- The pump stops only after the delay queue is drained.
      intro hpump
      have hlate : s.Late := .inl (by rw [hpump]; rfl)
      rw [(hs.winding.late hlate).entries] at he
      cases he
    exact ⟨x, (hpump.untouched hpumpHolds hstop).trans hx, .inl hstate⟩
  · rcases hworker.untouched hhands with hsame | ⟨hdoomed, reason, hrejected⟩
    · exact ⟨x, hsame.trans hx, .inl hstate⟩
    · refine ⟨(x.reject reason).1, by rw [hrejected, hx]; rfl, .inr (.inr ⟨?_, hdoomed⟩)⟩
      rw [Record.reject, hstate]
      rfl
  · exact ⟨x, by cases howner <;> exact hx, .inl hstate⟩
  · exact ⟨x, hx, .inl hstate⟩

/-- A call that is yet to take out an entry which stays has not done so. -/
theorem Move.removal_left (hmove : Move s a t) (he : (k, r) ∈ t.queue.entries)
    (howing : 0 < s.owing (· == .removing r k)) : 0 < t.owing (· == .removing r k) := by
  have hsame : t.calls = s.calls → 0 < t.owing (· == .removing r k) := fun hcalls =>
    owing_congr hcalls _ ▸ howing
  rcases hmove.kinds with ⟨u, duty, duty', hcall, howes, ht⟩ | hpump | hworker | howner | ⟨now, rfl⟩
  · have hduty : duty ≠ .removing r k := fun hduty => by
      rw [ht] at he
      exact hcall.removes hduty he
    have hcount := howes.count (· == .removing r k) rfl
    rw [beq_false_of_ne hduty, Bool.toNat_false] at hcount
    omega
  · exact hsame hpump.calls
  · exact hsame hworker.calls
  · exact hsame (by cases howner <;> rfl)
  · exact howing

theorem key_of_record {x : Record α} (h : s.record? r = some x) : s.key r = x.key := by
  rw [key, h]
  rfl

theorem Filed.move {refused : Ref → Prop} (h : Filed refused s) (hs : Reachable s)
    (hsole : ∀ r, Sole s r) (hrefused : ∀ r, 0 < s.condemned r → refused r) (hmove : Move s a t) :
    Filed refused t := by
  intro k r he
  rcases hmove.entersPending _ he with hold | ⟨hrecords, r', hpending, heq⟩
  · obtain ⟨x, hx, rfl, hstate⟩ := h hold
    obtain ⟨hpumpHolds, hhands⟩ := (hsole r).out_of_hand hold
    obtain ⟨y, hy, hkeeps⟩ := hmove.keeps.kept hx
    have hkey := hmove.key (postpones_eq_false hpumpHolds) (endsWell_eq_false hhands) hx hy
    refine ⟨y, hy, hkey.symm, ?_⟩
    rcases hstate with hpending | ⟨hcancelled, howing⟩ | ⟨hfailed, hpumps⟩
    · obtain ⟨y', hy', hafter⟩ := hs.entry_record (hsole r) hmove hold hx hpending
      rw [hy] at hy'
      cases hy'
      exact hafter.imp_right (.imp_right fun ⟨hfailed, hdoomed⟩ => ⟨hfailed, hrefused r hdoomed⟩)
    · have hfinal : x.isFinal = true := by
        rw [Record.isFinal, hcancelled]
        rfl
      exact .inr (.inl ⟨(hkeeps.final hfinal).trans hcancelled, hmove.removal_left he howing⟩)
    · have hfinal : x.isFinal = true := by
        rw [Record.isFinal, hfailed]
        rfl
      exact .inr (.inr ⟨(hkeeps.final hfinal).trans hfailed, hpumps⟩)
  · cases heq
    obtain ⟨x, hx, hstate⟩ := isPending_iff.mp hpending
    have hx' : t.record? r = some x := by
      rw [record?, hrecords]
      exact hx
    exact ⟨x, hx', key_of_record hx, .inl hstate⟩

theorem Filed.step {refused : Ref → Prop} (h : Filed refused s) (hs : Reachable s)
    (hsole : ∀ r, Sole s r) (hrefused : ∀ r, 0 < s.condemned r → refused r)
    (hstep : s.step a = some s') : Filed refused s' :=
  step_of_move (P := Filed refused) (fun _ => rfl) (h.move hs hsole hrefused) hstep

/-- What a run with factories that keep their panics to themselves preserves. -/
theorem Steady.exec_filed {actions : List (Action α)} (hs : Steady s) (h : ∀ p, Filed p s)
    (hnone : s.denied = 0) (hactions : ∀ a ∈ actions, a.Contained)
    (hrun : s.exec actions = some t) :
    Steady t ∧ Filed (fun _ => ∃ a ∈ actions, a.refusesPump = true) t := by
  have hkept : Steady t ∧ Filed (fun _ => ∃ a ∈ actions, a.refusesPump = true) t ∧
      (0 < t.denied → ∃ a ∈ actions, a.refusesPump = true) := by
    refine exec_keeps (P := fun s => Steady s ∧
      Filed (fun _ => ∃ a ∈ actions, a.refusesPump = true) s ∧
      (0 < s.denied → ∃ a ∈ actions, a.refusesPump = true)) ?_ ⟨hs, h fun _ => _, by omega⟩ hrun
    rintro s s' a ha ⟨hs, h, hrefused⟩ hstep
    have hcondemned : ∀ r, 0 < s.condemned r → ∃ a ∈ actions, a.refusesPump = true := fun r hpos =>
      hrefused (Nat.lt_of_lt_of_le hpos (condemned_le_denied s r))
    refine ⟨hs.step (hactions a ha) hstep, h.step hs.reachable hs.sole hcondemned hstep,
      fun hpos => ?_⟩
    cases hrefuses : a.refusesPump with
    | true => exact ⟨a, ha, hrefuses⟩
    | false =>
      refine hrefused (Nat.pos_of_ne_zero fun hzero => ?_)
      have := step_denied_eq_zero hstep hrefuses hzero
      omega
  exact ⟨hkept.1, hkept.2.1⟩

/-- The call that is yet to take an entry out is one that cancels its record. -/
theorem withdrawalAt_of_owing (h : 0 < s.owing (· == .removing r k)) :
    ∃ i, s.withdrawalAt i = some (.removing r k) := by
  obtain ⟨call, hcall, hduty⟩ := List.countP_pos_iff.mp h
  obtain ⟨i, hi⟩ := List.mem_iff_getElem?.mp hcall
  refine ⟨i, ?_⟩
  rw [withdrawalAt, hi]
  exact Call.withdrawal?_of_duty (eq_of_beq hduty)

/-! ## Offers -/

/-- The workers that have the record in hand are at its body, or before or after it. -/
theorem hands_eq (s : System α) (r : Ref) :
    s.pool.hands r =
      s.bodies r + s.pool.tally fun phase => phase.hand? == some r && phase.body?.isNone := by
  refine Pool.tally_eq_add (fun phase => ?_) s.pool
  cases phase <;> simp [WorkerPhase.hand?, WorkerPhase.body?]

theorem running_of_endsWell (h : endsWell r s a t = true) : s.state? r = some .running := by
  cases a with
  | bodyEnds i result =>
    rw [endsWell, Bool.and_eq_true, Bool.and_eq_true] at h
    exact eq_of_beq h.2.2
  | _ => cases h

/-- Whoever offers a record to the delay queue looks at it twice: whether it waits, and what its key
is. Nobody changes the key in between. -/
theorem Steady.offer_key (hs : Steady s) (hoffer : s.OnOffer r) (hmove : Move s a t) :
    t.key r = s.key r := by
  have hsole : s.queue.holds r + s.pumpHolds r + (s.pool.queue.count r + s.pool.hands r) +
    s.arriving r ≤ 1 := hs.sole r
  have hhands := s.hands_eq r
  have hoffering : 0 < s.arriving r ∨ s.pump = some (.offering r) ∨
      0 < s.pool.tally fun phase => phase.hand? == some r && phase.body?.isNone := by
    refine hoffer.imp_right (.imp_right ?_)
    rintro ⟨i, hphase⟩
    refine Pool.tally_pos hphase ?_
    show (some r == some r && true) = true
    rw [beq_self_eq_true, Bool.and_true]
  have hpump : s.pump = some (.offering r) → s.pumpHolds r = 1 := fun hpump => by
    rw [pumpHolds_of_record hpump rfl, beq_self_eq_true, Bool.toNat_true]
  have hknown : r < s.records.length := by
    have hplaces : s.places r = s.queue.holds r + s.pumpHolds r +
      (s.pool.queue.count r + s.pool.hands r) := rfl
    refine (hs.reachable.held r).known (.inl ?_)
    rcases hoffering with h | h | h
    · omega
    · have := hpump h
      omega
    · omega
  have hnot : postpones r s a t = false := by
    rcases hoffering with h | h | h
    · exact postpones_eq_false (by omega)
    · have hphase : s.pump.any (·.isPostponing r) = false := by
        rw [h]
        rfl
      rw [postpones, hphase, Bool.and_false, Bool.false_and]
    · exact postpones_eq_false (by omega)
  have hends : endsWell r s a t = false := by
    cases hends : endsWell r s a t with
    | false => rfl
    | true =>
      have hone := (hs.reachable.attended r).running (running_of_endsWell hends)
      rcases hoffering with h | h | h
      · omega
      · have := hpump h
        omega
      · omega
  have hx : s.record? r = some s.records[r] := List.getElem?_eq_getElem hknown
  obtain ⟨y, hy, -⟩ := hmove.keeps.kept hx
  rw [key_of_record hy, key_of_record hx, hmove.key hnot hends hx hy]

/-! ## After a cancellation -/

/-- The record has been cancelled while it waited. The call that has done so is yet to take the
entry out of the delay queue, or there is none left. -/
structure Withdrawing (s : System α) (i : Nat) (r : Ref) (k : Key) : Prop where
  final : s.isFinal r = true
  bodies : s.bodies r = 0
  entry : ∀ {k'}, (k', r) ∈ s.queue.entries → k' = k
  removal : (s.calls[i]?).map (·.duty) = some (.removing r k) ∨ s.queue.holds r = 0

theorem Move.entry_kept {k' : Key} (h : Move s a t) (hfinal : s.isFinal r = true)
    (he : (k', r) ∈ t.queue.entries) : (k', r) ∈ s.queue.entries := by
  rcases h.entersPending _ he with hold | ⟨-, r', hpending, heq⟩
  · exact hold
  · cases heq
    rw [isPending_of_final hfinal] at hpending
    cases hpending

theorem Move.holds_kept (h : Move s a t) (hfinal : s.isFinal r = true)
    (hzero : s.queue.holds r = 0) : t.queue.holds r = 0 :=
  DelayQueue.holds_eq_zero_iff.mpr fun k' he =>
    DelayQueue.holds_eq_zero_iff.mp hzero k' (h.entry_kept hfinal he)

/-- The call takes the entry out, or is still to do so. -/
theorem Withdrawing.removal_move (hs : Withdrawing s i r k) (h : Move s a t) :
    (t.calls[i]?).map (·.duty) = some (.removing r k) ∨ t.queue.holds r = 0 := by
  rcases hs.removal with hduty | hzero
  · have hsame : t.calls = s.calls → (t.calls[i]?).map (·.duty) = some (.removing r k) :=
      fun hcalls => hcalls ▸ hduty
    have hwhole := h
    cases h with
    | begun hmove =>
      obtain ⟨call, hcall, -⟩ := Option.map_eq_some_iff.mp hduty
      obtain ⟨hlt, -⟩ := List.getElem?_eq_some_iff.mp hcall
      refine .inl ?_
      rw [hmove.calls, List.getElem?_append_left hlt]
      exact hduty
    | @called j _ _ _ _ hcall hmove | @callRefused j _ _ _ _ hcall hmove =>
      by_cases hj : j = i
      · subst hj
        rw [hcall] at hduty
        refine .inr (DelayQueue.holds_eq_zero_iff.mpr fun k' he => ?_)
        obtain rfl := hs.entry (hwhole.entry_kept hs.final he)
        exact hmove.removes (Option.some.inj hduty) he
      · refine .inl ?_
        rw [hmove.calls, List.getElem?_set_ne hj]
        exact hduty
    | pumped hmove | pumpIdled hmove | pumpFaulted hmove => exact .inl (hsame hmove.calls)
    | worked hmove => exact .inl (hsame hmove.calls)
    | _ => exact .inl hduty
  · exact .inr (h.holds_kept hs.final hzero)

theorem Withdrawing.move (hs : Withdrawing s i r k) (h : Move s a t) : Withdrawing t i r k where
  final := h.keeps.isFinal hs.final
  bodies := Nat.eq_zero_of_le_zero (hs.bodies ▸ h.bodies_le (isPending_of_final hs.final))
  entry he := hs.entry (h.entry_kept hs.final he)
  removal := hs.removal_move h

theorem Withdrawing.step (hs : Withdrawing s i r k) (hstep : s.step a = some s') :
    Withdrawing s' i r k := by
  refine step_of_move (P := fun u => Withdrawing u i r k) (fun u => ?_) hs.move hstep
  exact propext ⟨fun h => ⟨h.final, h.bodies, h.entry, h.removal⟩,
    fun h => ⟨h.final, h.bodies, h.entry, h.removal⟩⟩

theorem Withdrawing.exec {actions : List (Action α)} (hs : Withdrawing s i r k)
    (hrun : s.exec actions = some t) : Withdrawing t i r k :=
  exec_keeps (P := fun s => Withdrawing s i r k) (fun _ hs hstep => hs.step hstep) hs hrun

/-- Once the entry is out, no other is put in. -/
theorem Withdrawing.exec_holds {actions : List (Action α)} (hs : Withdrawing s i r k)
    (hzero : s.queue.holds r = 0) (hrun : s.exec actions = some t) : t.queue.holds r = 0 := by
  have hkept : Withdrawing t i r k ∧ t.queue.holds r = 0 := by
    refine exec_keeps (P := fun s => Withdrawing s i r k ∧ s.queue.holds r = 0) ?_ ⟨hs, hzero⟩ hrun
    rintro s s' a - ⟨hs, hzero⟩ hstep
    refine ⟨hs.step hstep, step_of_move (P := fun s => s.queue.holds r = 0) (fun _ => rfl)
      (fun hmove => ?_) hstep⟩
    exact hmove.holds_kept hs.final hzero
  exact hkept.2

theorem Withdrawing.never_starts (hs : Withdrawing s i r k) (actions : List (Action α)) :
    s.occurrences (startsBody r) actions = 0 :=
  occurrences_eq_zero (P := fun s => Withdrawing s i r k)
    (fun hs hstep => ⟨startsBody_of_bodies hs.bodies, hs.step hstep⟩) hs actions

/-! ## The step that cancels -/

theorem withdrawalStep_calls {stage stage' : Withdrawal}
    (h : s.withdrawalStep stage = some (u, stage')) : u.calls = s.calls := by
  obtain ⟨t, hmove, hcore⟩ := withdrawalStep_move h
  have hcalls : u.calls = t.calls := congrArg (fun w => w.calls) hcore
  rw [hcalls, hmove.calls]

/-- A call that is at a cancellation goes on with it. -/
theorem stageStep_withdrawal {stage : Withdrawal} {choice : Nat} {call call' : Call α}
    (hat : call.withdrawal? = some stage) (h : s.stageStep choice call = some (u, call')) :
    ∃ stage', s.withdrawalStep stage = some (u, stage') ∧
      (stage'.duty ≠ .free → call'.duty = stage'.duty) := by
  cases call with
  | withdrawal current =>
    cases hat
    obtain ⟨⟨v, stage'⟩, hv, heq⟩ := Option.map_eq_some_iff.mp h
    cases heq
    exact ⟨stage', hv, fun _ => rfl⟩
  | batch batch =>
    cases batch with
    | cancelling error current left =>
      cases hat
      obtain ⟨⟨v, batch'⟩, hbatch, heq⟩ := Option.map_eq_some_iff.mp h
      cases heq
      obtain ⟨⟨w, stage'⟩, hw, heq⟩ := Option.map_eq_some_iff.mp hbatch
      have hsame : w = u := by
        cases stage' <;> cases left <;> cases heq <;> rfl
      refine ⟨stage', hsame ▸ hw, fun hduty => ?_⟩
      cases stage' <;> first | exact absurd rfl hduty | (cases heq; rfl)
    | _ => cases hat
  | _ => cases hat

theorem step_withdrawal {stage : Withdrawal} {choice : Nat} (hat : s.withdrawalAt i = some stage)
    (h : s.step (.call i choice) = some s') :
    ∃ u stage', s.withdrawalStep stage = some (u, stage') ∧
      s'.records = u.records ∧ s'.queue = u.queue ∧ s'.pool = u.pool ∧
      (stage'.duty ≠ .free → (s'.calls[i]?).map (·.duty) = some stage'.duty) := by
  obtain ⟨call, hcall, hstage⟩ := Option.bind_eq_some_iff.mp hat
  have h : s.callStep i choice = some s' := h
  rw [callStep, hcall, Option.bind_some] at h
  obtain ⟨⟨u, call'⟩, hu, rfl⟩ := Option.map_eq_some_iff.mp h
  obtain ⟨stage', hstep, hduty⟩ := stageStep_withdrawal hstage hu
  refine ⟨u, stage', hstep, rfl, rfl, rfl, fun hne => ?_⟩
  show ((u.calls.set i call')[i]?).map (·.duty) = some stage'.duty
  have hlt : i < u.calls.length := by
    rw [withdrawalStep_calls hstep]
    exact (List.getElem?_eq_some_iff.mp hcall).1
  rw [List.getElem?_set_self hlt, Option.map_some, hduty hne]

/-- The step that cancels a record which waits. -/
theorem Filed.withdrawing {refused : Ref → Prop} {mayInterrupt : Bool} {choice : Nat}
    (h : Filed refused s) (hs : Reachable s)
    (hat : s.withdrawalAt i = some (.asking r mayInterrupt)) (hpending : s.isPending r = true)
    (hstep : s.step (.call i choice) = some s') : Withdrawing s' i r (s.key r) := by
  obtain ⟨u, stage', hasked, hrecords, hqueue, hpool, hduty⟩ := step_withdrawal hat hstep
  obtain ⟨x, hx, hstate⟩ := isPending_iff.mp hpending
  have hanswer := cancelRecord_pending hpending mayInterrupt
  have hcore := cancelRecord_core s r mayInterrupt
  rw [withdrawalStep] at hasked
  generalize s.cancelRecord r mayInterrupt = answer at hasked hanswer hcore
  obtain ⟨v, answer⟩ := answer
  obtain rfl : answer = _ := hanswer
  cases hasked
  have hafter : s'.records = s.records.modify r fun record => (record.cancel mayInterrupt).1 :=
    hrecords.trans (congrArg (fun w => w.records) hcore)
  have hqueue' : s'.queue = s.queue := hqueue.trans (congrArg (fun w => w.queue) hcore)
  have hpool' : s'.pool = s.pool := hpool.trans (congrArg (fun w => w.pool) hcore)
  constructor
  · refine isFinal_iff.mpr ⟨(x.cancel mayInterrupt).1, ?_, ?_⟩
    · rw [record?_of_modify hafter, if_pos rfl, hx, Option.map_some]
    · rw [Record.cancel, hstate]
      rfl
  · rw [bodies, hpool']
    exact (hs.attended r).waiting (state?_eq_some.mpr ⟨x, hx, hstate⟩)
  · intro k' he
    rw [hqueue'] at he
    obtain ⟨y, hy, hk, -⟩ := h he
    rw [hk, key_of_record hy]
  · exact .inl (hduty Duty.noConfusion)

/-! ## One cancellation -/

theorem isFinal_congr (h : t.records = s.records) : t.isFinal r = s.isFinal r := by
  rw [isFinal, isFinal, state?, state?, record?, record?, h]

/-- A record has been changed at its place, and has come to its end by that. -/
theorem ends_of_modify {x : Record α} {g : Record α → Record α} (hx : s.record? r = some x)
    (ht : t.records = s.records.modify r g) (h : x.isFinal = false ∧ (g x).isFinal = true) :
    s.isFinal r = false ∧ t.isFinal r = true := by
  constructor
  · rw [isFinal, state?, hx]
    exact h.1
  · rw [isFinal, state?, record?_of_modify ht, if_pos rfl, hx]
    exact h.2

theorem cancelRecord_ends {mayInterrupt : Bool}
    (h : (s.cancelRecord r mayInterrupt).2.accepted = true) :
    s.isFinal r = false ∧ (s.cancelRecord r mayInterrupt).1.isFinal r = true := by
  have hcore := cancelRecord_core s r mayInterrupt
  cases hx : s.record? r with
  | none =>
    rw [cancelRecord, hx] at h
    cases h
  | some x =>
    refine ends_of_modify hx (congrArg (fun w => w.records) hcore) (x.cancel_ends ?_)
    rw [cancelRecord, hx] at h
    exact h

theorem giveUp_ends (h : (s.giveUp r).2 = true) :
    s.isFinal r = false ∧ (s.giveUp r).1.isFinal r = true := by
  have hcore := giveUp_core s r
  cases hx : s.record? r with
  | none =>
    rw [giveUp, hx] at h
    cases h
  | some x =>
    refine ends_of_modify hx (congrArg (fun w => w.records) hcore) (x.giveUp_ends ?_)
    cases hgiven : x.giveUp.2 with
    | true => rfl
    | false =>
      rw [giveUp, hx] at h
      simp [hgiven] at h

theorem withdrawalStep_asking {mayInterrupt : Bool} {stage : Withdrawal}
    (h : s.withdrawalStep (.asking r mayInterrupt) = some (u, stage)) :
    u = (s.cancelRecord r mayInterrupt).1 := by
  rw [withdrawalStep] at h
  split at h
  all_goals
    next heq =>
      rw [heq]
      cases h
      rfl

/-- A cancellation that succeeds ends the record. -/
theorem step_cancels (hstep : s.step a = some s') (h : cancels r s a s' = true) :
    s.isFinal r = false ∧ s'.isFinal r = true := by
  have hends : ∀ {v : System α}, s'.records = v.records →
      s.isFinal r = false ∧ v.isFinal r = true → s.isFinal r = false ∧ s'.isFinal r = true :=
    fun hrecords hv => ⟨hv.1, (isFinal_congr hrecords).trans hv.2⟩
  cases a with
  | call i choice =>
    rw [cancels] at h
    split at h
    next r' mayInterrupt hat =>
      rw [Bool.and_eq_true] at h
      obtain ⟨hr, haccepted⟩ := h
      obtain rfl : r' = r := eq_of_beq hr
      obtain ⟨u, stage', hasked, hrecords, -⟩ := step_withdrawal hat hstep
      rw [withdrawalStep_asking hasked] at hrecords
      exact hends hrecords (cancelRecord_ends haccepted)
    next => cases h
  | pump choice =>
    rw [cancels, Bool.and_eq_true] at h
    have hstep : s.pumpStep choice = some s' := hstep
    rw [pumpStep, eq_of_beq h.1] at hstep
    cases hstep
    exact hends rfl (giveUp_ends h.2)
  | worker i =>
    rw [cancels, Bool.and_eq_true] at h
    have hstep : s.workerStep i = some s' := hstep
    rw [workerStep, eq_of_beq h.1] at hstep
    cases hstep
    exact hends rfl (giveUp_ends h.2)
  | _ => cases h

/-- A record that has come to its end is not cancelled, and one that is comes to its end. -/
theorem occurrences_cancels (s : System α) (r : Ref) (actions : List (Action α)) :
    s.occurrences (cancels r) actions + (s.isFinal r).toNat ≤ 1 := by
  induction actions generalizing s with
  | nil =>
    rw [occurrences, Nat.zero_add]
    exact Bool.toNat_le _
  | cons a rest ih =>
    cases hstep : s.step a with
    | none =>
      rw [occurrences, hstep, Nat.zero_add]
      exact Bool.toNat_le _
    | some s' =>
      have hrest := ih s'
      obtain ⟨t, hmove, hcore⟩ := step_move hstep
      have hrecords : s'.records = t.records := congrArg (fun w => w.records) hcore
      have hfinal : s.isFinal r = true → s'.isFinal r = true := fun hfinal =>
        (isFinal_congr hrecords).trans (hmove.keeps.isFinal hfinal)
      rw [occurrences_cons hstep]
      cases hcancels : cancels r s a s' with
      | true =>
        obtain ⟨hbefore, hafter⟩ := step_cancels hstep hcancels
        rw [hafter] at hrest
        rw [hbefore]
        simp only [Bool.toNat_true, Bool.toNat_false] at hrest ⊢
        omega
      | false =>
        cases hbefore : s.isFinal r with
        | true =>
          rw [hfinal hbefore] at hrest
          simp only [Bool.toNat_true, Bool.toNat_false] at hrest ⊢
          omega
        | false =>
          simp only [Bool.toNat_false] at hrest ⊢
          omega

/-! ## Runs -/

/-- Cancelling is atomic with respect to dispatching, as long as every factory starts its worker or
fails inside the pool, and a hand-off panics only before it has reached the pool.

An entry of the delay queue is that of a pending record under its present key, or that of a
cancelled one whose cancellation is yet to take it out, or, if a pump has been refused, that of one
that its worker has rejected for that. While a record is on offer to the delay queue its key stays,
and a cancellation between the two looks that an offer takes might as well come after it. Once a
cancellation has found the record pending, its body is not started, and when the call has come past
the removal of the entry, no entry is left or comes again. And of all cancellations of a record at
most one succeeds. -/
theorem cancellation_is_atomic (host : Host) (name : String) (config : ServiceConfig)
    (clockEnd now : Instant) {actions : List (Action α)} (hactions : ∀ a ∈ actions, a.Contained)
    (hrun : (System.initial host name config clockEnd now).exec actions = some s) (r : Ref) :
    (∀ k, (k, r) ∈ s.queue.entries → k = s.key r ∧
      (s.isPending r = true ∨
        (s.state? r = some .cancelled ∧ ∃ i, s.withdrawalAt i = some (.removing r k)) ∨
        (s.state? r = some .failed ∧ ∃ a ∈ actions, a.refusesPump = true))) ∧
    (s.OnOffer r → ∀ a t, s.step a = some t → t.key r = s.key r) ∧
    (∀ mayInterrupt,
      (s.cancelRecord r mayInterrupt).1.offerSeen (s.isPending r) r =
          (((s.offer r).1.cancelRecord r mayInterrupt).1, (s.offer r).2) ∧
        (s.cancelRecord r mayInterrupt).1.putBackSeen (s.isPending r) r =
          ((s.putBack r).cancelRecord r mayInterrupt).1) ∧
    (∀ i mayInterrupt, s.withdrawalAt i = some (.asking r mayInterrupt) → s.isPending r = true →
      ∀ choice during t, s.exec (.call i choice :: during) = some t →
        s.occurrences (startsBody r) (.call i choice :: during) = 0 ∧
        (t.withdrawalAt i ≠ some (.removing r (s.key r)) →
          ∀ after u, t.exec after = some u → u.queue.holds r = 0)) ∧
    (System.initial host name config clockEnd now).occurrences (cancels r) actions ≤ 1 := by
  obtain ⟨hs, hfiled⟩ := (Steady.initial host name config clockEnd now).exec_filed (fun _ => nofun)
    rfl hactions hrun
  refine ⟨fun k he => ?_, fun hoffer a t hstep => ?_,
    fun _ => ⟨s.offerSeen_cancelRecord.1, s.putBackSeen_cancelRecord.1⟩, ?_, ?_⟩
  · obtain ⟨x, hx, rfl, hstate⟩ := hfiled he
    refine ⟨(key_of_record hx).symm, ?_⟩
    rcases hstate with hpending | ⟨hcancelled, howing⟩ | ⟨hfailed, hrefused⟩
    · exact .inl (isPending_iff.mpr ⟨x, hx, hpending⟩)
    · exact .inr (.inl ⟨state?_eq_some.mpr ⟨x, hx, hcancelled⟩, withdrawalAt_of_owing howing⟩)
    · exact .inr (.inr ⟨state?_eq_some.mpr ⟨x, hx, hfailed⟩, hrefused⟩)
  · obtain ⟨u, hmove, hcore⟩ := step_move hstep
    exact of_core (P := fun t => t.key r = s.key r) (fun _ => rfl) hcore
      (hs.offer_key hoffer hmove)
  · intro i mayInterrupt hat hpending choice during t hexec
    obtain ⟨s', hstep, hduring⟩ := exec_cons hexec
    have hwithdrawing := hfiled.withdrawing hs.reachable hat hpending hstep
    refine ⟨?_, fun hpast after u hafter => ?_⟩
    · rw [occurrences_cons hstep, hwithdrawing.never_starts]
      rfl
    · have ht := hwithdrawing.exec hduring
      rcases ht.removal with hduty | hzero
      · obtain ⟨call, hcall, hduty⟩ := Option.map_eq_some_iff.mp hduty
        refine absurd ?_ hpast
        rw [withdrawalAt, hcall]
        exact Call.withdrawal?_of_duty hduty
      · exact ht.exec_holds hzero hafter
  · have hle := occurrences_cancels (System.initial host name config clockEnd now) r actions
    omega

/-- A record is scheduled for later, and its handle is used to cancel it. -/
def scheduledAndAsked : List (Action Unit) :=
  [.setFactory { start := fun _ _ => .started "worker" },
    .begin (.schedule (.ofSeconds 1)), .call 0 0, .call 0 0, .call 0 0, .call 0 0,
    .begin (.cancel 0 false)]

/-- The record is cancelled before it is due. When it would be, the delay queue has been idle. -/
theorem scheduled_record_is_withdrawn :
    ∃ s t u : System Unit,
      (System.initial .lenient "service" (.ofProcessors 1) 10000000000 0).exec scheduledAndAsked =
        some s ∧
      s.queue.refs = [0] ∧ s.isPending 0 = true ∧
      s.exec [.call 1 0, .call 1 0, .call 1 0] = some t ∧
      t.withdrawalAt 1 = some (.answered 0 true) ∧
      t.exec [.passTime (.ofSeconds 1), .pumpIdle] = some u ∧
      u.queue.holds 0 = 0 ∧
      s.occurrences (startsBody 0) [.call 1 0, .call 1 0, .call 1 0] = 0 := by
  have hasked : ((System.initial .lenient "service" (.ofProcessors 1) 10000000000 0).exec
      scheduledAndAsked).map (fun s => (s.queue.refs, s.isPending 0, s.withdrawalAt 1)) =
        some ([0], true, some (.asking 0 false)) := by decide +kernel
  have hanswered : (((System.initial .lenient "service" (.ofProcessors 1) 10000000000 0).exec
      scheduledAndAsked).bind (·.exec [.call 1 0, .call 1 0, .call 1 0])).map
        (fun t => (t.withdrawalAt 1, (t.exec [.passTime (.ofSeconds 1), .pumpIdle]).isSome)) =
          some (some (.answered 0 true), true) := by decide +kernel
  obtain ⟨s, hrun, hs⟩ := Option.map_eq_some_iff.mp hasked
  rw [hrun, Option.bind_some] at hanswered
  obtain ⟨t, hexec, ht⟩ := Option.map_eq_some_iff.mp hanswered
  simp only [Prod.mk.injEq] at hs ht
  obtain ⟨hrefs, hpending, hat⟩ := hs
  obtain ⟨hafter, hidle⟩ := ht
  obtain ⟨u, hu⟩ := Option.isSome_iff_exists.mp hidle
  obtain ⟨-, -, -, hatomic, -⟩ := cancellation_is_atomic .lenient "service" (.ofProcessors 1)
    10000000000 0 (by simp [scheduledAndAsked, Action.Contained, WorkerFactory.Contained]) hrun 0
  obtain ⟨hstarts, hrid⟩ := hatomic 1 false hat hpending 0 _ t hexec
  have hpast : t.withdrawalAt 1 ≠ some (.removing 0 (s.key 0)) := by
    rw [hafter]
    intro heq
    cases heq
  have hholds := hrid hpast _ u hu
  exact ⟨s, t, u, hrun, hrefs, hpending, hexec, hafter, hu, hholds, hstarts⟩

/-- A worker has run a task and put it back, and the pump that it asks for is refused. Before it
takes the task out again, a pump is started for another one. This pump has the first one run by
another worker, which puts it back under its next trigger. -/
def putBackMeanwhile : List (Action Unit) :=
  [.setFactory { start := fun _ _ => .started "worker" },
    .begin (.scheduleSeries .zero (.fixedRate (.ofSeconds 1))),
    .call 0 0, .call 0 0, .call 0 0, .call 0 0,
    .pump 0, .pump 0, .pump 0, .pump 0, .pumpIdle,
    .worker 0, .worker 0, .worker 0, .bodyEnds 0 (.ok ()), .worker 0, .workerRefused 0 "no threads",
    .passTime (.ofSeconds 5), .begin (.schedule .zero), .call 1 0, .call 1 0, .call 1 0,
    .pump 0, .pump 0, .pump 0, .pump 0,
    .worker 1, .worker 1, .worker 1, .bodyEnds 1 (.ok ()), .worker 1,
    .worker 0, .worker 0]

/-- The first worker finds no entry under the key that it knows, and rejects the task: the delay
queue has an entry of a task that has failed, and that nobody has cancelled. -/
theorem rejected_task_stays_queued :
    ∃ s : System Unit,
      (System.initial .lenient "service" (.ofProcessors 2) 10000000000 0).exec putBackMeanwhile =
        some s ∧
      (∀ a ∈ putBackMeanwhile, a.Contained) ∧ 0 ∈ s.queue.refs ∧ s.state? 0 = some .failed ∧
      s.calls.all (·.withdrawal?.isNone) = true := by
  have hview : ((System.initial .lenient "service" (.ofProcessors 2) 10000000000 0).exec
      putBackMeanwhile).map (fun s => (s.queue.refs, s.state? 0,
        s.calls.all (·.withdrawal?.isNone))) = some ([0, 1], some .failed, true) := by
    decide +kernel
  obtain ⟨s, hrun, hs⟩ := Option.map_eq_some_iff.mp hview
  simp only [Prod.mk.injEq] at hs
  obtain ⟨hrefs, hfailed, hnobody⟩ := hs
  exact ⟨s, hrun, by simp [putBackMeanwhile, Action.Contained, WorkerFactory.Contained],
    hrefs ▸ List.mem_cons_self, hfailed, hnobody⟩

end System

end TaskScheduler
