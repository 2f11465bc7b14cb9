import TaskScheduler.Proofs.Draining

/-
  Periodic records and a closed delay queue.

  The pump gives a periodic record up that it has taken out of a closed delay queue, so it takes it
  out once, however many hand-offs of it have failed. But a panic may end the hand-off before the
  pump has looked at the queue, and the record is put back then (`panicsUndecided`). And the record
  that the pump has in hand when the queue is closed may be on its way to the pool
  (`handsPeriodic`). `Reachable.step_closing`: a record that is taken out is paid for by
  `closingPotential`, to which only such a panic adds.
-/
namespace TaskScheduler

/-- The record that the pump has decided to hand over, until it has noted that this has failed. -/
def PumpPhase.handoff? : PumpPhase → Option Ref
  | pausing r _ | handing r | faulted r _ | withdrawn r _ | failed r _ => some r
  | _ => none

namespace System

variable {α : Type} {s s' t : System α} {a : Action α} {r : Ref}

/-- The turns of a record, if it is taken out once when it is periodic. -/
def closingTurns (s : System α) (r : Ref) : Nat := if s.repeats r then 1 else s.turns r

/-- The pump is at a hand-off of a periodic record. -/
def handsPeriodic (s : System α) : Bool := s.pump.any fun phase => phase.handoff?.any s.repeats

/-- How often a record is taken out of a closed delay queue at most, if the pump gives up the
periodic ones. -/
def closingPotential (s : System α) : Nat := s.allTurns s.closingTurns + s.handsPeriodic.toNat

/-- A panic ends the hand-off of a periodic record before the pump has looked whether the delay
queue is closed. -/
def panicsUndecided (s : System α) (_ : Action α) (t : System α) : Bool :=
  match s.pump, t.pump with
  | some (.holding r _), some (.faulted ..) => s.repeats r
  | some (.checked r _), some (.faulted ..) => s.repeats r
  | _, _ => false

theorem closingTurns_pos (s : System α) (r : Ref) : 0 < s.closingTurns r := by
  rw [closingTurns]
  split
  · exact Nat.one_pos
  · exact s.turns_pos r

theorem closingTurns_le_turns (s : System α) (r : Ref) : s.closingTurns r ≤ s.turns r := by
  rw [closingTurns]
  split
  · exact s.turns_pos r
  · exact Nat.le_refl _

theorem closingPotential_le_budget (s : System α) : s.closingPotential ≤ s.drainBudget := by
  have hqueued : s.queuedTurns s.closingTurns ≤ s.queuedTurns s.turns :=
    List.sum_le_sum fun r _ => s.closingTurns_le_turns r
  have hhand : s.handTurns s.closingTurns + s.handsPeriodic.toNat ≤ (s.inHand.map s.turns).sum := by
    rw [handTurns, handsPeriodic, inHand]
    cases s.pump with
    | none => exact Nat.zero_le _
    | some phase =>
      have hle := (returns_mono s.closingTurns_le_turns phase).trans
        (returns_le_turns phase s.turns)
      cases hhandoff : phase.handoff? with
      | none =>
        rw [Option.any_some, hhandoff]
        exact hle
      | some r =>
        have hreturns : phase.returns s.closingTurns = s.closingTurns r - 1 ∧
            phase.record? = some r := by
          cases phase <;> cases hhandoff <;> exact ⟨rfl, rfl⟩
        have hpos := s.turns_pos r
        rw [Option.any_some, Option.elim_some, Option.bind_some, hhandoff, hreturns.1, hreturns.2,
          Option.any_some, closingTurns, Option.toList_some, List.map_singleton,
          List.sum_singleton]
        cases s.repeats r with
        | false =>
          rw [if_neg Bool.false_ne_true, Bool.toNat_false]
          omega
        | true =>
          rw [if_pos rfl, Bool.toNat_true]
          omega
  have hbudget : s.drainBudget = s.queuedTurns s.turns + (s.inHand.map s.turns).sum := by
    rw [drainBudget, queuedTurns, List.map_append, List.sum_append]
  rw [closingPotential, allTurns, hbudget]
  omega

theorem Reachable.step_closingTurns (hs : Reachable s) (hstep : s.step a = some s') (r : Ref) :
    s'.closingTurns r ≤ s.closingTurns r := by
  have hpos := s.closingTurns_pos r
  cases hafter : s'.repeats r with
  | true =>
    rw [closingTurns, if_pos hafter]
    exact hpos
  | false =>
    have honce := step_once hstep hafter
    rw [closingTurns, closingTurns, hafter, honce]
    exact turns_le_of_failures (step_config hstep) (hs.step_failures_once hstep honce)

/-- While the delay queue is closed, the pump comes to be at a hand-off of a periodic record only by
a panic. -/
theorem PumpMove.handsPeriodic (h : PumpMove s t) (hclosed : s.queue.closed = true) :
    t.handsPeriodic.toNat ≤ s.handsPeriodic.toNat + (panicsUndecided s a t).toNat := by
  have hkept : ∀ {phase next : PumpPhase}, s.pump = some phase → t.pump = some next →
      phase.handoff? = next.handoff? → t.repeats = s.repeats →
      t.handsPeriodic.toNat ≤ s.handsPeriodic.toNat + (panicsUndecided s a t).toNat := by
    intro phase next hpump hnext hsame hrepeats
    rw [System.handsPeriodic, System.handsPeriodic, hpump, hnext, Option.any_some, Option.any_some,
      hsame, hrepeats]
    exact Nat.le_add_right _ _
  cases h with
  | @wentOn phase next hpump hgoes =>
    cases hgoes with
    | checked _ => exact Nat.zero_le _
    | @decided r early =>
      have hnot : (s.pumpDecide r early).handoff?.any s.repeats = false := by
        rw [pumpDecide, hclosed, Bool.or_true, Bool.true_and]
        cases hrepeats : s.repeats r with
        | true => rfl
        | false =>
          simp only [Bool.false_eq_true, if_false]
          split
          · rfl
          · split <;> exact hrepeats
      rw [System.handsPeriodic, Option.any_some]
      exact Nat.le_trans (Nat.le_of_eq (congrArg Bool.toNat hnot)) (Nat.zero_le _)
    | resumed _ | failed _ => exact hkept hpump rfl rfl rfl
    | @faulted _ r failure hfaults hrecord =>
      cases phase with
      | holding r' early | checked r' early =>
        obtain rfl : r' = r := Option.some.inj hrecord
        rw [panicsUndecided, hpump]
        exact Nat.le_add_left _ _
      | pausing r' wakeAt | handing r' =>
        obtain rfl : r' = r := Option.some.inj hrecord
        exact hkept hpump rfl rfl rfl
      | _ => cases hfaults
  | refused _ hpump _ | unwound _ hpump _ | withdrew hpump => exact hkept hpump rfl rfl rfl
  | noted _ hafter => cases hafter <;> exact Nat.zero_le _
  | stopped _ hnext => rcases hnext with rfl | ⟨_, rfl⟩ <;> exact Nat.zero_le _
  | _ => exact Nat.zero_le _

theorem Reachable.step_handsPeriodic (hs : Reachable s) (hclosed : s.queue.closed = true)
    (hstep : s.step a = some s') :
    s'.handsPeriodic.toNat ≤ s.handsPeriodic.toNat + (panicsUndecided s a s').toNat := by
  obtain ⟨t, hmove, hcore⟩ := step_move hstep
  refine of_core (P := fun u => u.handsPeriodic.toNat ≤
    s.handsPeriodic.toNat + (panicsUndecided s a u).toNat) (fun _ => rfl) hcore ?_
  cases hafter : t.handsPeriodic with
  | false => exact Nat.zero_le _
  | true =>
    obtain ⟨phase, hpump, hphase⟩ := (Option.any_eq_true _ _).mp hafter
    rcases hmove.pump_from hpump (by rintro rfl; cases hphase) with hsame | hpumped
    · obtain ⟨r, hhandoff, hrepeats⟩ := (Option.any_eq_true _ _).mp hphase
      have hrecord : phase.record? = some r := by
        cases phase <;> cases hhandoff <;> rfl
      obtain ⟨x, hx⟩ := hs.known_in_hand hsame hrecord
      obtain ⟨y, hy, hkeeps⟩ := hmove.keeps.kept hx
      have hbefore : s.handsPeriodic = true := by
        rw [repeats_of_record hy, hkeeps.repeats] at hrepeats
        rw [handsPeriodic, hsame, Option.any_some, hhandoff, Option.any_some,
          repeats_of_record hx, hrepeats]
      rw [hbefore]
      exact Nat.le_add_right _ _
    · rw [← hafter]
      exact hpumped.handsPeriodic hclosed

/-- A record that is taken out costs a turn, where a periodic record has one, and gets another one
by a panic before the pump has looked at the delay queue. -/
theorem Reachable.step_closing (hs : Reachable s) (hclosed : s.queue.closed = true)
    (hstep : s.step a = some s') :
    s'.closingPotential + (popped s a s').length ≤
      s.closingPotential + (panicsUndecided s a s').toNat := by
  have hturns := hs.step_closingTurns hstep
  rcases hs.step_drains hclosed hstep with ⟨r, hnotes⟩ | ⟨-, hdrains⟩
  · obtain ⟨reason, hpump⟩ := hnotes.failed
    obtain ⟨x, hx⟩ := hs.known_in_hand hpump rfl
    have hqueued : s'.queuedTurns s'.closingTurns ≤ s.queuedTurns s.closingTurns := by
      rw [queuedTurns, queuedTurns, hnotes.queue]
      exact List.sum_le_sum fun r' _ => hturns r'
    have hbefore : s.handTurns s.closingTurns + s.handsPeriodic.toNat =
        s.closingTurns r - 1 + (s.repeats r).toNat := by
      rw [handTurns_of_pump hpump, handsPeriodic, hpump]
      rfl
    have hhand : s'.handTurns s'.closingTurns + s'.handsPeriodic.toNat ≤
        s.closingTurns r - 1 + (s.repeats r).toNat := by
      rcases hnotes.after with ⟨_, hafter⟩ | ⟨_, hafter, hlimit⟩
      · rw [handTurns_of_pump hafter, handsPeriodic, hafter]
        exact Nat.zero_le _
      · have hreturned : s'.handTurns s'.closingTurns + s'.handsPeriodic.toNat =
            s'.closingTurns r := by
          rw [handTurns_of_pump hafter, handsPeriodic, hafter]
          rfl
        rw [hreturned, closingTurns, closingTurns, step_repeats_eq hstep hx]
        cases honce : s.repeats r with
        | false =>
          exact hnotes.turns_lt (step_config hstep) (hnotes.counted_once hs honce) hlimit
        | true => exact Nat.le_refl 1
    rw [closingPotential, closingPotential, allTurns, allTurns, hnotes.popped a, List.length_nil]
    omega
  · have hpaid := hdrains.allTurns s.closingTurns_pos
    have hless := allTurns_mono hturns s'
    have hhands := hs.step_handsPeriodic hclosed hstep
    rw [closingPotential, closingPotential]
    omega

end System

end TaskScheduler
