import TaskScheduler.Proofs.Calls
import TaskScheduler.Proofs.ExactlyOnce

/-
  Services whose pump cannot have its name.

  A name with a null character in it is refused with a panic, so such a service has no pump
  (`Reachable.no_pump`), and what is in its delay queue stays there until it is cancelled. A record
  that the pool does not have and that no call carries is `Stranded`: nothing hands it over, and its
  body is not started. Such is the record of every submission that is to start a pump
  (`Reachable.stranded`).
-/
namespace TaskScheduler

namespace System

variable {α : Type} {s s' t : System α} {a : Action α} {duty duty' : Duty} {r : Ref}

theorem Move.no_pump (h : Move s a t) (hname : s.pumpNameFault? ≠ none) (hpump : s.pump = none) :
    t.pump = none := by
  rcases h.kinds with ⟨u, _, _, hcall, -, ht⟩ | hmove | hworker | howner | ⟨now, rfl⟩
  · have hu : t.pump = u.pump := by rw [ht]
    cases hcall with
    | launched _ hnamed | launchedLast _ hnamed | replacedLast _ hnamed =>
      exact absurd hnamed hname
    | _ => exact hu.trans hpump
  · obtain ⟨phase, hphase⟩ := hmove.pump_at_work
    rw [hpump] at hphase
    cases hphase
  · cases hworker with
    | launched _ _ hnamed => exact absurd hnamed hname
    | _ => exact hpump
  · cases howner <;> exact hpump
  · exact hpump

theorem Reachable.no_pump (h : Reachable s) (hname : s.pumpNameFault? ≠ none) : s.pump = none := by
  refine h.of_moves (P := fun s => s.pumpNameFault? ≠ none → s.pump = none) (fun _ => rfl)
    (fun _ _ _ _ _ _ => rfl) ?_ hname
  intro s t a _ hs hmove hname
  rw [pumpNameFault?, hmove.name] at hname
  exact hmove.no_pump hname (hs hname)

/-! ## Records that nobody hands over -/

/-- Where there is no pump, and no call carries the record, the pool does not get it. -/
theorem Move.pool_holds_le (h : Move s a t) (hpump : s.pump = none) (hr : s.arriving r = 0) :
    t.pool.holds r ≤ s.pool.holds r := by
  rcases h.kinds with ⟨u, duty, duty', hcall, howes, ht⟩ | hmove | hworker | howner | ⟨now, rfl⟩
  · have hpool : t.pool = u.pool := by rw [ht]
    rw [hpool]
    refine hcall.pool_holds_le fun hduty => ?_
    have hle : (duty == .carrying r).toNat ≤ s.arriving r := howes.le (f := (· == .carrying r)) rfl
    rw [hduty, beq_self_eq_true, Bool.toNat_true] at hle
    omega
  · obtain ⟨phase, hphase⟩ := hmove.pump_at_work
    rw [hpump] at hphase
    cases hphase
  · exact hworker.pool_holds_le r
  · exact Nat.le_of_eq (howner.pool_holds r)
  · exact Nat.le_refl _

/-- The pool does not have the record, and there is nobody to hand it over. -/
structure Stranded (s : System α) (r : Ref) : Prop where
  misnamed : s.pumpNameFault? ≠ none
  made : r < s.records.length
  unpooled : s.pool.holds r = 0
  uncarried : s.arriving r = 0

theorem Stranded.move (h : Stranded s r) (hs : Reachable s) (hmove : Move s a t) :
    Stranded t r where
  misnamed := by
    rw [pumpNameFault?, hmove.name]
    exact h.misnamed
  made := Nat.lt_of_lt_of_le h.made hmove.keeps.length_le
  unpooled :=
    Nat.le_zero.mp (h.unpooled ▸ hmove.pool_holds_le (hs.no_pump h.misnamed) h.uncarried)
  uncarried := by
    rcases hmove.arriving_le r with hle | hnew
    · exact Nat.le_zero.mp (h.uncarried ▸ hle)
    · exact absurd hnew (Nat.ne_of_lt h.made)

theorem Stranded.step (h : Stranded s r) (hs : Reachable s) (hstep : s.step a = some s') :
    Stranded s' r := by
  refine step_of_move (P := fun s => Stranded s r) (fun u => ?_) (h.move hs) hstep
  exact propext ⟨fun h => ⟨h.misnamed, h.made, h.unpooled, h.uncarried⟩,
    fun h => ⟨h.misnamed, h.made, h.unpooled, h.uncarried⟩⟩

theorem Stranded.never_starts (h : Stranded s r) (hs : Reachable s) (actions : List (Action α)) :
    s.occurrences (startsBody r) actions = 0 := by
  refine occurrences_eq_zero (P := fun s => Reachable s ∧ Stranded s r) ?_ ⟨hs, h⟩ actions
  rintro s s' a ⟨hs, h⟩ hstep
  have hbodies : s.bodies r = 0 := Nat.le_zero.mp (h.unpooled ▸ s.bodies_le_holds r)
  exact ⟨startsBody_of_bodies hbodies, hs.step a hstep, h.step hs hstep⟩

/-! ## Submissions -/

/-- A submission is to start a pump when it has put the record that it carried into the delay
queue. -/
theorem CallMove.launches (h : CallMove s duty t duty') (hduty' : duty'.launches r = true) :
    duty = .carrying r ∧ t.pool = s.pool := by
  cases h with
  | offered _ =>
    split at hduty'
    · exact ⟨congrArg Duty.carrying (eq_of_beq hduty'), rfl⟩
    · cases hduty'
  | closed => split at hduty' <;> cases hduty'
  | asked _ hduty => rcases hduty with ⟨rfl, -⟩ | ⟨_, _, _, rfl⟩ <;> cases hduty'
  | _ => cases hduty'

/-- A record that a pump is to be started for has been put down by the call that carried it. -/
theorem Reachable.uncarried (h : Reachable s) (hpos : 0 < s.owing (·.launches r)) :
    r < s.records.length ∧ s.arriving r = 0 := by
  have hle : s.owing (·.launches r) ≤ s.owing (·.admits r) := by
    refine List.countP_mono_left fun call _ => ?_
    cases call.duty with
    | launching record => cases record <;> exact fun h => h
    | _ => nofun
  have honce := h.submitted_once r
  have hsubmits := s.owing_submits r
  have hsubmissions : s.submissions r = s.owing (·.submits r) + s.accepted.count r := rfl
  exact ⟨h.submitted (by omega), by omega⟩

theorem Move.launches (h : Move s a t) (hpos : 0 < t.owing (·.launches r)) :
    0 < s.owing (·.launches r) ∨ (0 < s.arriving r ∧ t.pool = s.pool) := by
  rcases h.kinds with ⟨u, duty, duty', hcall, howes, ht⟩ | hmove | hworker | howner | ⟨now, rfl⟩
  · have hcount := howes.count (·.launches r) rfl
    cases hduty' : duty'.launches r with
    | false =>
      rw [hduty', Bool.toNat_false] at hcount
      exact .inl (by omega)
    | true =>
      obtain ⟨hduty, hpool⟩ := hcall.launches hduty'
      have hle : (duty == .carrying r).toNat ≤ s.arriving r :=
        howes.le (f := (· == .carrying r)) rfl
      rw [hduty, beq_self_eq_true, Bool.toNat_true] at hle
      refine .inr ⟨hle, ?_⟩
      rw [ht]
      exact hpool
  · exact .inl (by rw [owing, ← hmove.calls]; exact hpos)
  · exact .inl (by rw [owing, ← hworker.calls]; exact hpos)
  · exact .inl (by cases howner <;> exact hpos)
  · exact .inl hpos

/-- The record of a submission that is to start a pump which cannot have its name. -/
theorem Reachable.stranded (h : Reachable s) (hname : s.pumpNameFault? ≠ none)
    (hpos : 0 < s.owing (·.launches r)) : Stranded s r := by
  have hunpooled : s.pool.holds r = 0 := by
    refine h.of_moves (P := fun s => s.pumpNameFault? ≠ none → 0 < s.owing (·.launches r) →
      s.pool.holds r = 0) (fun _ => rfl) (fun _ _ _ _ _ _ => nofun) ?_ hname hpos
    intro s t a hs hunpooled hmove hname hpos
    rw [pumpNameFault?, hmove.name] at hname
    rcases hmove.launches hpos with hbefore | ⟨hcarried, hpool⟩
    · have hzero := hunpooled hname hbefore
      have hle := hmove.pool_holds_le (hs.no_pump hname) (hs.uncarried hbefore).2
      omega
    · have hone := hs.carried r hcarried
      have hplaces : s.places r = s.queue.holds r + s.pumpHolds r + s.pool.holds r := rfl
      rw [hpool]
      omega
  obtain ⟨hmade, hcarried⟩ := h.uncarried hpos
  exact ⟨hname, hmade, hunpooled, hcarried⟩

end System

end TaskScheduler
