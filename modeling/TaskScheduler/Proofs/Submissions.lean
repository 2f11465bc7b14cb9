import Mathlib.Data.List.Nodup
import TaskScheduler.Proofs.Evolution
import TaskScheduler.Proofs.Run

/-
  One submission for each record.

  A record is made by a call that submits it, and accepted once: `submissions` counts the calls that
  are submitting a record and how often it has been accepted, and this never exceeds one
  (`Reachable.submitted_once`).
-/
namespace TaskScheduler

/-- The submission of the record is under way. -/
def Duty.submits (r : Ref) : Duty → Bool
  | carrying r' | launching (some (r', _)) | retracting r' _ | counting r' => r' == r
  | _ => false

namespace System

variable {α : Type} {s t : System α} {a : Action α} {duty duty' : Duty} {r : Ref}

/-- How often the record is being submitted or has been accepted. -/
def submissions (s : System α) (r : Ref) : Nat := s.owing (·.submits r) + s.accepted.count r

/-- A submission goes on, or comes to an end; one that begins has made its record. -/
theorem CallMove.submits (h : CallMove s duty t duty') (r : Ref) :
    t.accepted.count r + (duty'.submits r).toNat ≤ s.accepted.count r + (duty.submits r).toNat ∨
      (r = s.records.length ∧ r < t.records.length ∧
        t.accepted.count r + (duty'.submits r).toNat ≤ s.accepted.count r + 1) := by
  cases h with
  | created recurrence trigger =>
    by_cases hr : s.records.length = r
    · refine .inr ⟨hr.symm, ?_, Nat.add_le_add_left (Bool.toNat_le _) _⟩
      rw [List.length_append, List.length_singleton, hr]
      exact Nat.lt_succ_self _
    · refine .inl (Nat.add_le_add_left ?_ _)
      rw [Duty.submits, beq_false_of_ne hr]
      exact Nat.zero_le _
  | @counted r' handles _ =>
    refine .inl (Nat.le_of_eq ?_)
    show (s.accepted ++ [r']).count r + 0 = s.accepted.count r + (r' == r).toNat
    exact count_concat_add ..
  | @offered r' queue needsPump _ => cases needsPump <;> exact .inl (Nat.le_refl _)
  | asked mayInterrupt hduty =>
    rcases hduty with ⟨rfl, -⟩ | ⟨_, _, _, rfl⟩ <;> exact .inl (Nat.le_refl _)
  | closed => cases s.queue.close.2 <;> exact .inl (Nat.le_refl _)
  | dropped | refused _ _ | unwound _ _ | misnamed _ | retracted =>
    exact .inl (Nat.le_add_right _ _)
  | _ => exact .inl (Nat.le_refl _)

theorem Move.submissions_le (h : Move s a t) (r : Ref) :
    t.submissions r ≤ s.submissions r ∨
      (r = s.records.length ∧ r < t.records.length ∧
        t.submissions r ≤ s.submissions r + 1) := by
  have hsame : t.calls = s.calls → t.accepted = s.accepted →
      t.submissions r ≤ s.submissions r := by
    intro hcalls haccepted
    exact Nat.le_of_eq (by rw [submissions, submissions, owing, owing, hcalls, haccepted])
  rcases h.kinds with ⟨u, duty, duty', hcall, howes, ht⟩ | hpump | hworker | howner | ⟨now, rfl⟩
  · have hcount := howes.count (·.submits r) rfl
    have haccepted : t.accepted = u.accepted := by rw [ht]
    have hrecords : t.records = u.records := by rw [ht]
    have hsubmits := hcall.submits r
    simp only [submissions, haccepted, hrecords]
    rcases hsubmits with hle | ⟨hr, hmade, hle⟩
    · exact .inl (by omega)
    · exact .inr ⟨hr, hmade, by omega⟩
  · exact .inl (hsame hpump.calls (by cases hpump <;> rfl))
  · exact .inl (hsame hworker.calls (by cases hworker <;> rfl))
  · exact .inl (hsame (by cases howner <;> rfl) (by cases howner <;> rfl))
  · exact .inl (hsame rfl rfl)

/-- One call submits a record, and it is accepted once. -/
theorem Reachable.submissions_le (h : Reachable s) (r : Ref) :
    s.submissions r ≤ 1 ∧ (0 < s.submissions r → r < s.records.length) := by
  refine h.of_moves (P := fun s => s.submissions r ≤ 1 ∧
    (0 < s.submissions r → r < s.records.length)) (fun _ => rfl) ?_ ?_
  · intro host name config clockEnd now
    exact ⟨Nat.zero_le 1, nofun⟩
  · intro s t a _ ⟨hle, hknown⟩ hmove
    have hgrows := hmove.keeps.length_le
    rcases hmove.submissions_le r with hkept | ⟨hr, hmade, hkept⟩
    · exact ⟨by omega, fun hpos => Nat.lt_of_lt_of_le (hknown (by omega)) hgrows⟩
    · -- A record that has just been made has not been submitted before.
      rcases Nat.eq_zero_or_pos (s.submissions r) with hzero | hpos
      · exact ⟨by omega, fun _ => hmade⟩
      · exact absurd hr (Nat.ne_of_lt (hknown hpos))

theorem Reachable.submitted_once (h : Reachable s) (r : Ref) : s.submissions r ≤ 1 :=
  (h.submissions_le r).1

theorem Reachable.submitted (h : Reachable s) (hpos : 0 < s.submissions r) :
    r < s.records.length :=
  (h.submissions_le r).2 hpos

theorem Reachable.accepted_nodup (h : Reachable s) : s.accepted.Nodup :=
  List.nodup_iff_count_le_one.mpr fun r =>
    Nat.le_trans (Nat.le_add_left _ _) (h.submitted_once r)

end System

end TaskScheduler
