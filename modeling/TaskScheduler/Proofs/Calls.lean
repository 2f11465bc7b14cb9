import TaskScheduler.Proofs.Custody

/-
  Calls that are under way.

  `step_calls`, `step_call`: what a step does to the calls, and to one of them. A record that a call
  carries has been made by that call and is nowhere else (`Reachable.carried`).
-/
namespace TaskScheduler

/-- The submission that a call is at. -/
def Call.submission? {α : Type} : Call α → Option Submission
  | submission stage | batch (.submitting _ stage _) => some stage
  | _ => none

namespace System

variable {α : Type} {s s' t u : System α} {a : Action α} {duty duty' : Duty} {r : Ref} {i : Nat}

/-! ## Steps -/

theorem Move.calls_eq (h : Move s a t) :
    t.calls = s.calls ∨ (∃ request, a = .begin request) ∨ (∃ i choice, a = .call i choice) ∨
      ∃ i reason, a = .callRefused i reason := by
  cases h with
  | begun hmove => exact .inr (.inl ⟨_, rfl⟩)
  | called _ hmove => exact .inr (.inr (.inl ⟨_, _, rfl⟩))
  | callRefused _ hmove => exact .inr (.inr (.inr ⟨_, _, rfl⟩))
  | pumped hmove | pumpIdled hmove | pumpFaulted hmove => exact .inl hmove.calls
  | worked hmove => exact .inl hmove.calls
  | _ => exact .inl rfl

/-- What a step does to the calls: it leaves them alone, or one begins, or one carries out a
section, or one is refused the pump that it is to start. -/
theorem step_calls (hstep : s.step a = some s') :
    (s'.calls = s.calls ∧ (∀ request, a ≠ .begin request) ∧ (∀ j choice, a ≠ .call j choice) ∧
        ∀ j reason, a ≠ .callRefused j reason) ∨
      (∃ request, a = .begin request ∧ s'.calls = s.calls ++ [(s.firstStage request).2]) ∨
      (∃ j choice call u call', a = .call j choice ∧ s.calls[j]? = some call ∧
        s.stageStep choice call = some (u, call') ∧
        s' = { u with calls := s.calls.set j call' }) ∨
      ∃ j reason call u call', a = .callRefused j reason ∧ s.calls[j]? = some call ∧
        CallRefusal s reason call u call' ∧ s' = { u with calls := s.calls.set j call' } := by
  cases a with
  | begin request =>
    rw [step] at hstep
    split at hstep
    next =>
      cases hstep
      have hbegun : (s.firstStage request).1.calls = s.calls := (firstStage_move s request).calls
      refine .inr (.inl ⟨request, rfl, ?_⟩)
      rw [← hbegun]
      rfl
    next => cases hstep
  | call j choice =>
    obtain ⟨call, hj, hstep⟩ := Option.bind_eq_some_iff.mp hstep
    obtain ⟨⟨u, call'⟩, hstage, rfl⟩ := Option.map_eq_some_iff.mp hstep
    obtain ⟨v, hmove, hcore⟩ := stageStep_move hstage
    have hu : u.calls = s.calls := (congrArg (fun w => w.calls) hcore).trans hmove.calls
    exact .inr (.inr (.inl ⟨j, choice, call, u, call', rfl, hj, hstage, by rw [← hu]⟩))
  | callRefused j reason =>
    obtain ⟨call, hj, hstep⟩ := Option.bind_eq_some_iff.mp hstep
    obtain ⟨⟨u, call'⟩, hstage, rfl⟩ := Option.map_eq_some_iff.mp hstep
    have hrefusal := stageRefused_refusal hstage
    have hu : u.calls = s.calls := by cases hrefusal <;> rfl
    exact .inr (.inr (.inr ⟨j, reason, call, u, call', rfl, hj, hrefusal, by rw [← hu]⟩))
  | _ =>
    obtain ⟨t, hmove, hcore⟩ := step_move hstep
    have hcalls : s'.calls = t.calls := congrArg (fun w => w.calls) hcore
    rcases hmove.calls_eq with hsame | ⟨request, heq⟩ | ⟨j, choice, heq⟩ | ⟨j, reason, heq⟩
    · exact .inl ⟨hcalls.trans hsame, by rintro _ ⟨⟩, by rintro _ _ ⟨⟩, by rintro _ _ ⟨⟩⟩
    · cases heq
    · cases heq
    · cases heq

/-- A call is as it was, or it has just begun, or it has carried out a section, or its pump has been
refused. -/
theorem step_call {call' : Call α} (hstep : s.step a = some s')
    (hcall : s'.calls[i]? = some call') :
    s.calls[i]? = some call' ∨ (∃ request, a = .begin request ∧ call' = (s.firstStage request).2) ∨
      (∃ choice call u, a = .call i choice ∧ s.calls[i]? = some call ∧
        s.stageStep choice call = some (u, call') ∧
        s' = { u with calls := s.calls.set i call' }) ∨
      ∃ reason call u, a = .callRefused i reason ∧ s.calls[i]? = some call ∧
        CallRefusal s reason call u call' ∧ s' = { u with calls := s.calls.set i call' } := by
  have hset : ∀ {j : Nat} {call call'' : Call α}, s.calls[j]? = some call →
      (s.calls.set j call'')[i]? = some call' →
      s.calls[i]? = some call' ∨ (i = j ∧ call'' = call') := by
    intro j call call'' hj hcall
    by_cases hi : i = j
    · subst hi
      rw [List.getElem?_set_self (List.getElem?_eq_some_iff.mp hj).1] at hcall
      exact .inr ⟨rfl, Option.some.inj hcall⟩
    · rw [List.getElem?_set_ne (Ne.symm hi)] at hcall
      exact .inl hcall
  rcases step_calls hstep with
    ⟨hsame, -⟩ | ⟨request, rfl, hbegun⟩ | ⟨j, choice, call, u, call'', rfl, hj, hstage, rfl⟩ |
      ⟨j, reason, call, u, call'', rfl, hj, hrefusal, rfl⟩
  · rw [hsame] at hcall
    exact .inl hcall
  · rw [hbegun, List.getElem?_append] at hcall
    split at hcall
    · exact .inl hcall
    · exact .inr (.inl ⟨request, rfl, List.mem_singleton.mp (List.mem_of_getElem? hcall)⟩)
  · rcases hset hj hcall with hold | ⟨rfl, rfl⟩
    · exact .inl hold
    · exact .inr (.inr (.inl ⟨choice, call, u, rfl, hj, hstage, rfl⟩))
  · rcases hset hj hcall with hold | ⟨rfl, rfl⟩
    · exact .inl hold
    · exact .inr (.inr (.inr ⟨reason, call, u, rfl, hj, hrefusal, rfl⟩))

/-! ## Records that a call carries -/

/-- A record that a call carries is nowhere else, and no other call carries it. -/
def Carried (s : System α) (r : Ref) : Prop := 0 < s.arriving r → s.places r + s.arriving r = 1

theorem CallMove.carrying (h : CallMove s duty t duty') (hduty' : duty' = .carrying r) :
    duty = .carrying r ∨ r = s.records.length := by
  cases h with
  | created recurrence trigger =>
    cases hduty'
    exact .inr rfl
  | carried => exact .inl hduty'
  | offered _ => split at hduty' <;> cases hduty'
  | closed => split at hduty' <;> cases hduty'
  | asked mayInterrupt hduty =>
    rcases hduty with ⟨rfl, -⟩ | ⟨_, _, _, rfl⟩ <;> cases hduty'
  | _ => cases hduty'

/-- A record comes to be carried by being made. -/
theorem Move.arriving_le (h : Move s a t) (r : Ref) :
    t.arriving r ≤ s.arriving r ∨ r = s.records.length := by
  have hsame : t.calls = s.calls → t.arriving r ≤ s.arriving r ∨ r = s.records.length :=
    fun hcalls => .inl (Nat.le_of_eq (by rw [arriving, arriving, owing, owing, hcalls]))
  rcases h.kinds with ⟨u, duty, duty', hcall, howes, -⟩ | hpump | hworker | howner | ⟨now, rfl⟩
  · have hcount : t.arriving r + (duty == .carrying r).toNat =
      s.arriving r + (duty' == .carrying r).toNat := howes.count (· == .carrying r) rfl
    cases hduty' : duty' == .carrying r with
    | false =>
      rw [hduty', Bool.toNat_false] at hcount
      exact .inl (by omega)
    | true =>
      rcases hcall.carrying (eq_of_beq hduty') with hduty | hnew
      · rw [hduty', hduty, beq_self_eq_true] at hcount
        exact .inl (by omega)
      · exact .inr hnew
  · exact hsame hpump.calls
  · exact hsame hworker.calls
  · exact hsame (by cases howner <;> rfl)
  · exact hsame rfl

theorem Carried.move (h : Carried s r) (hs : Reachable s) (hmove : Move s a t) : Carried t r := by
  intro hpos
  have hcarried : 0 < s.arriving r → s.places r + s.arriving r = 1 := h
  have hknown := (hs.held r).known
  rcases (hmove.passes hs.numbered hs.attended r).bounded with hle | ⟨heq, hnew | hdoubles⟩
  · rcases hmove.arriving_le r with harriving | hnew
    · have := hcarried (by omega)
      omega
    · rcases Nat.eq_zero_or_pos (s.places r + s.arriving r) with hzero | hbefore
      · omega
      · exact absurd hnew (Nat.ne_of_lt (hknown (.inl hbefore)))
  · rcases Nat.eq_zero_or_pos (s.places r + s.arriving r) with hzero | hbefore
    · omega
    · exact absurd hnew.1 (Nat.ne_of_lt (hknown (.inl hbefore)))
  · have hheld := hdoubles.held
    rcases hmove.arriving_le r with harriving | hnew
    · have := hcarried (by omega)
      omega
    · exact absurd hnew (Nat.ne_of_lt (hknown (.inl (by omega))))

theorem Reachable.carried (h : Reachable s) (r : Ref) : Carried s r := by
  refine h.of_moves (P := fun s => Carried s r) (fun _ => rfl) ?_ ?_
  · intro host name config clockEnd now hpos
    cases hpos
  · intro s t a hs hcarried hmove
    exact hcarried.move hs hmove

end System

end TaskScheduler
