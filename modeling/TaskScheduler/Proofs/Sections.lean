import TaskScheduler.Proofs.Sections.Call
import TaskScheduler.Proofs.Sections.Pump
import TaskScheduler.Proofs.Sections.Worker

/-
  What an action does to the service.

  `Move s a t`: the action `a` leads from `s` to `t`. The moves of the pump, the workers and the
  calls are in the modules below this one. `step_move`: every step is a move, up to what is only
  counted or reported. All invariants of the service are shown for moves, so none of them looks at
  how a section is carried out.
-/
namespace TaskScheduler.System

variable {α : Type} {s s' t : System α}

/-- The effects of the actions. -/
inductive Move (s : System α) : Action α → System α → Prop where
  | timePassed (time : Duration) : Move s (.passTime time) { s with now := s.now + time.nanos }
  | begun {request : Request} {call : Call α} {t : System α} : CallMove s .free t call.duty →
      Move s (.begin request) { t with calls := t.calls ++ [call] }
  | called {i choice : Nat} {call call' : Call α} {t : System α} : s.calls[i]? = some call →
      CallMove s call.duty t call'.duty → call'.duty.followsRefusal = false →
      Move s (.call i choice) { t with calls := t.calls.set i call' }
  /-- The pump that a call is to start is refused. -/
  | callRefused {i : Nat} {reason : String} {call call' : Call α} {t : System α} :
      s.calls[i]? = some call → CallMove s call.duty t call'.duty →
      call'.duty.followsRefusal = true →
      Move s (.callRefused i reason) { t with calls := t.calls.set i call' }
  | pumped {choice : Nat} {t : System α} : PumpMove s t → Move s (.pump choice) t
  | pumpIdled {t : System α} : PumpMove s t → Move s .pumpIdle t
  | pumpFaulted {failure : Failure} {t : System α} : PumpMove s t → Move s (.pumpFault failure) t
  | worked {a : Action α} {t : System α} : WorkerMove s a t → Move s a t
  | resized (size : Nat) :
      Move s (.setCoreSize size) { s with pool := (s.pool.setCoreSize size).pool }
  | prestarted (count : Nat) :
      Move s (.prestart count) { s with pool := (s.pool.prestart count).pool }
  | refactored (factory : WorkerFactory) :
      Move s (.setFactory factory) { s with pool := s.pool.setFactory factory }
  /-- The owner or a client asks for what is refused. -/
  | declined {a : Action α} : a = .setCoreSize 0 ∨ (∃ operation, a = .forbidden operation) →
      Move s a s

theorem set_calls_core {u t : System α} (h : u.core = t.core) (i : Nat) (call : Call α) :
    ({ u with calls := u.calls.set i call } : System α).core =
      ({ t with calls := t.calls.set i call } : System α).core := by
  have hcalls : u.calls = t.calls := congrArg (fun w => w.calls) h
  rw [← hcalls]
  exact congrArg (fun w : System α => { w with calls := u.calls.set i call }) h

theorem callStep_move {i choice : Nat} (h : s.callStep i choice = some s') :
    ∃ t, Move s (.call i choice) t ∧ s'.core = t.core := by
  obtain ⟨call, hcall, h⟩ := Option.bind_eq_some_iff.mp h
  obtain ⟨⟨u, call'⟩, hstage, rfl⟩ := Option.map_eq_some_iff.mp h
  obtain ⟨t, hmove, hcore⟩ := stageStep_move hstage
  exact ⟨_, .called hcall hmove (stageStep_followsRefusal hstage), set_calls_core hcore i call'⟩

theorem callRefused_move {i : Nat} {reason : String} (h : s.callRefused i reason = some s') :
    ∃ t, Move s (.callRefused i reason) t ∧ s'.core = t.core := by
  obtain ⟨call, hcall, h⟩ := Option.bind_eq_some_iff.mp h
  obtain ⟨⟨u, call'⟩, hstage, rfl⟩ := Option.map_eq_some_iff.mp h
  obtain ⟨t, hmove, hcore⟩ := (stageRefused_refusal hstage).move
  exact ⟨_, .callRefused hcall hmove (stageRefused_refusal hstage).followsRefusal,
    set_calls_core hcore i call'⟩

theorem begin_move (s : System α) (request : Request) :
    Move s (.begin request) (s.begin request) :=
  .begun (firstStage_move s request)

/-- An action does what one of the moves says. -/
theorem step_move {a : Action α} (h : s.step a = some s') :
    ∃ t, Move s a t ∧ s'.core = t.core := by
  cases a with
  | passTime time =>
    cases h
    exact ⟨_, .timePassed time, rfl⟩
  | begin request =>
    simp only [step] at h
    split at h
    · cases h
      exact ⟨_, begin_move s request, rfl⟩
    · cases h
  | call i choice => exact callStep_move h
  | pump choice =>
    obtain ⟨t, hmove, hcore⟩ := pumpStep_move h
    exact ⟨t, .pumped hmove, hcore⟩
  | pumpIdle =>
    obtain ⟨t, hmove, hcore⟩ := pumpIdle_move h
    exact ⟨t, .pumpIdled hmove, hcore⟩
  | pumpFault failure =>
    obtain ⟨t, hmove, hcore⟩ := pumpFault_move h
    exact ⟨t, .pumpFaulted hmove, hcore⟩
  | worker i =>
    obtain ⟨t, hmove, hcore⟩ := workerStep_move h
    exact ⟨t, .worked hmove, hcore⟩
  | workerExpires i =>
    obtain ⟨t, hmove, hcore⟩ := workerExpires_move h
    exact ⟨t, .worked hmove, hcore⟩
  | callRefused i reason => exact callRefused_move h
  | workerRefused i reason =>
    obtain ⟨t, hmove, hcore⟩ := workerRefused_move h
    exact ⟨t, .worked hmove, hcore⟩
  | bodyEnds i result =>
    obtain ⟨t, hmove, hcore⟩ := bodyEnds_move h
    exact ⟨t, .worked hmove, hcore⟩
  | setCoreSize size =>
    cases h
    unfold resize
    split
    next hzero =>
      subst hzero
      exact ⟨s, .declined (.inl rfl), rfl⟩
    next => exact ⟨_, .resized size, rfl⟩
  | prestart count =>
    cases h
    exact ⟨_, .prestarted count, rfl⟩
  | setFactory factory =>
    cases h
    exact ⟨_, .refactored factory, rfl⟩
  | forbidden operation =>
    cases h
    exact ⟨s, .declined (.inr ⟨operation, rfl⟩), rfl⟩

/-! ## What calls owe -/

/-- The number of calls that owe a duty of some kind. -/
def owing (s : System α) (f : Duty → Bool) : Nat := s.calls.countP fun call => f call.duty

theorem CallMove.calls {duty duty' : Duty} (h : CallMove s duty t duty') : t.calls = s.calls := by
  cases h <;> rfl

theorem PumpMove.calls (h : PumpMove s t) : t.calls = s.calls := by cases h <;> rfl

theorem WorkerMove.calls {a : Action α} (h : WorkerMove s a t) : t.calls = s.calls := by
  cases h <;> rfl

/-- One call owes `duty'` in `t` that owed `duty` in `s`. A call that was not there owed nothing. -/
structure Discharges (s t : System α) (duty duty' : Duty) : Prop where
  owner : duty = .free ∨ ∃ call ∈ s.calls, call.duty = duty
  count : ∀ f : Duty → Bool, f .free = false →
    t.owing f + (f duty).toNat = s.owing f + (f duty').toNat

theorem Discharges.le {duty duty' : Duty} (h : Discharges s t duty duty') {f : Duty → Bool}
    (hfree : f .free = false) : (f duty).toNat ≤ s.owing f := by
  rcases h.owner with rfl | ⟨call, hcall, rfl⟩
  · rw [hfree]
    exact Nat.zero_le _
  · cases hf : f call.duty with
    | false => exact Nat.zero_le _
    | true => exact List.countP_pos_iff.mpr ⟨call, hcall, hf⟩

theorem discharges_begun {call : Call α} (h : t.calls = s.calls) :
    Discharges s { t with calls := t.calls ++ [call] } .free call.duty where
  owner := .inl rfl
  count := by
    intro f hfree
    show (t.calls ++ [call]).countP _ + _ = _
    rw [List.countP_append, h, hfree, List.countP_singleton]
    cases hf : f call.duty <;> simp [owing]

theorem discharges_called {i : Nat} {call call' : Call α} (h : t.calls = s.calls)
    (hi : s.calls[i]? = some call) :
    Discharges s { t with calls := t.calls.set i call' } call.duty call'.duty where
  owner := .inr ⟨call, List.mem_of_getElem? hi, rfl⟩
  count := by
    intro f _
    show (t.calls.set i call').countP _ + _ = _
    rw [h]
    exact countP_set_add hi call' fun call => f call.duty

/-- The calls of the owner on the pool. -/
inductive OwnerMove (s : System α) : System α → Prop where
  | resized (size : Nat) : OwnerMove s { s with pool := (s.pool.setCoreSize size).pool }
  | prestarted (count : Nat) : OwnerMove s { s with pool := (s.pool.prestart count).pool }
  | refactored (factory : WorkerFactory) : OwnerMove s { s with pool := s.pool.setFactory factory }

/-- Whose move it is. -/
theorem Move.kinds {a : Action α} (h : Move s a t) :
    (∃ u duty duty', CallMove s duty u duty' ∧ Discharges s t duty duty' ∧
      t = { u with calls := t.calls }) ∨
    PumpMove s t ∨ WorkerMove s a t ∨ OwnerMove s t ∨ ∃ now, t = { s with now } := by
  cases h with
  | begun hmove => exact .inl ⟨_, _, _, hmove, discharges_begun hmove.calls, rfl⟩
  | called hi hmove | callRefused hi hmove =>
    exact .inl ⟨_, _, _, hmove, discharges_called hmove.calls hi, rfl⟩
  | pumped hmove | pumpIdled hmove | pumpFaulted hmove => exact .inr (.inl hmove)
  | worked hmove => exact .inr (.inr (.inl hmove))
  | resized size => exact .inr (.inr (.inr (.inl (.resized size))))
  | prestarted count => exact .inr (.inr (.inr (.inl (.prestarted count))))
  | refactored factory => exact .inr (.inr (.inr (.inl (.refactored factory))))
  | timePassed time => exact .inr (.inr (.inr (.inr ⟨_, rfl⟩)))
  | declined _ => exact .inr (.inr (.inr (.inr ⟨_, rfl⟩)))

/-! ## What stays -/

/-- The configuration and the end of the clock are given with the service. -/
theorem Move.settings {a : Action α} (h : Move s a t) :
    t.config = s.config ∧ t.clockEnd = s.clockEnd := by
  rcases h.kinds with ⟨u, _, _, hcall, -, ht⟩ | hpump | hworker | howner | ⟨now, rfl⟩
  · rw [ht]
    cases hcall <;> exact ⟨rfl, rfl⟩
  · cases hpump <;> exact ⟨rfl, rfl⟩
  · cases hworker <;> exact ⟨rfl, rfl⟩
  · cases howner <;> exact ⟨rfl, rfl⟩
  · exact ⟨rfl, rfl⟩

theorem Move.name {a : Action α} (h : Move s a t) : t.name = s.name := by
  rcases h.kinds with ⟨u, _, _, hcall, -, ht⟩ | hpump | hworker | howner | ⟨now, rfl⟩
  · rw [ht]
    cases hcall <;> rfl
  · cases hpump <;> rfl
  · cases hworker <;> rfl
  · cases howner <;> rfl
  · rfl

theorem CallMove.now {duty duty' : Duty} (h : CallMove s duty t duty') : t.now = s.now := by
  cases h <;> rfl

/-- The clock never goes back, and goes on only where nothing else happens. -/
theorem Move.now_le {a : Action α} (h : Move s a t) : s.now ≤ t.now := by
  cases h with
  | timePassed time => exact Int.le_add_of_nonneg_right (Int.natCast_nonneg _)
  | begun hmove => exact Int.le_of_eq hmove.now.symm
  | called _ hmove | callRefused _ hmove => exact Int.le_of_eq hmove.now.symm
  | pumped hmove | pumpIdled hmove | pumpFaulted hmove => cases hmove <;> exact Int.le_refl _
  | worked hmove => cases hmove <;> exact Int.le_refl _
  | _ => exact Int.le_refl _

/-- Only a pump that is there does anything. -/
theorem PumpMove.pump_at_work (h : PumpMove s t) : ∃ phase, s.pump = some phase := by
  cases h <;> exact ⟨_, ‹s.pump = some _›⟩

/-- What the pump does, it has been doing or has just come to. Others only start it. -/
theorem Move.pump_from {a : Action α} {phase : PumpPhase} (h : Move s a t)
    (hpump : t.pump = some phase) (hphase : phase ≠ .waiting) :
    s.pump = some phase ∨ PumpMove s t := by
  have hstarted : ∀ {u : System α}, u.pump = some .waiting → t.pump = u.pump →
      s.pump = some phase ∨ PumpMove s t := by
    intro u hu ht
    rw [hpump, hu] at ht
    exact absurd (Option.some.inj ht) hphase
  rcases h.kinds with ⟨u, _, _, hcall, -, ht⟩ | hmove | hworker | howner | ⟨now, rfl⟩
  · have hu : t.pump = u.pump := by rw [ht]
    cases hcall with
    | launched _ _ | launchedLast _ _ | replacedLast _ _ => exact hstarted rfl hu
    | _ => exact .inl (hu.symm.trans hpump)
  · exact .inr hmove
  · cases hworker with
    | launched _ _ _ => exact hstarted rfl rfl
    | _ => exact .inl hpump
  · cases howner <;> exact .inl hpump
  · exact .inl hpump

end TaskScheduler.System
