import TaskScheduler.Proofs.FiringOrder
import TaskScheduler.Proofs.Punctual
import TaskScheduler.Proofs.Retries

/-
  The pump with a record in hand, while everything else goes on.

  `Turn r s actions t`: over a run from `s` to `t` the pump has the record in hand until the last
  step, at which it lets go of it. `step_pump`: nobody but the pump itself, or a panic in it, ends
  what it is doing. So a turn goes on as it is up to the next section of the pump
  (`Turn.next_section`). What the others do meanwhile leaves the record alone, but that a call may
  cancel it (`Spared`).
-/
namespace TaskScheduler

theorem PumpPhase.canFault_of_after {phase : PumpPhase} (h : phase.isAfterFailure = true) :
    phase.canFault = false := by
  cases phase <;> first | rfl | cases h

namespace System

variable {α : Type} {s s' t u : System α} {a : Action α} {r : Ref} {phase : PumpPhase}
  {actions : List (Action α)}

/-! ## Steps of the pump, and of others -/

/-- What a pump that has something to do other than to wait is at, it stays at until it has carried
out the next section, or until a panic ends the hand-off. -/
inductive PumpStep (phase : PumpPhase) (s : System α) : Action α → System α → Prop where
  | other {a : Action α} {s' : System α} : a.isPump = false → s'.pump = some phase →
      PumpStep phase s a s'
  | own {choice : Nat} {s' : System α} : s.pumpStep choice = some s' →
      PumpStep phase s (.pump choice) s'
  | panic {failure : Failure} {s' : System α} : phase.canFault = true →
      s.pumpFault failure = some s' → PumpStep phase s (.pumpFault failure) s'

theorem step_pump (hstep : s.step a = some s') (hpump : s.pump = some phase)
    (hphase : phase ≠ .waiting) : PumpStep phase s a s' := by
  cases ha : a.isPump with
  | false =>
    obtain ⟨t, hmove, hcore⟩ := step_move hstep
    refine .other ha
      (((congrArg (fun w => w.pump) hcore).trans (hmove.pump_kept ha ?_)).trans hpump)
    rw [hpump]
    exact Option.some_ne_none _
  | true =>
    cases a with
    | pump choice => exact .own hstep
    | pumpIdle =>
      have hidle : s.pumpIdle = some s' := hstep
      rw [pumpIdle, hpump, decide_eq_false (fun heq => hphase (Option.some.inj heq))] at hidle
      cases hidle
    | pumpFault failure =>
      have hfault : s.pumpFault failure = some s' := hstep
      refine .panic ?_ hfault
      rw [pumpFault, hpump] at hfault
      cases phase <;> first | rfl | cases hfault
    | _ => cases ha

/-- What the others leave of a record that is in nobody else's hand. -/
structure Spared (s s' : System α) (r : Ref) : Prop where
  now : s.now ≤ s'.now
  config : s'.config = s.config
  clockEnd : s'.clockEnd = s.clockEnd
  failures : s'.failures r = s.failures r
  key : s'.key r = s.key r
  /-- A record that waits can only be cancelled, or rejected by a worker that could start no pump
  for it, and one that has come to its end stays as it is. -/
  state : s'.state? r = s.state? r ∨ (s.isPending r = true ∧
    (s'.state? r = some .cancelled ∨ (0 < s.forsakers r ∧ s'.state? r = some .failed)))
  unforsaken : s.forsakers r = 0 → s'.forsakers r = 0

theorem Spared.refl (s : System α) (r : Ref) : Spared s s r :=
  ⟨Int.le_refl _, rfl, rfl, rfl, rfl, .inl rfl, fun hzero => hzero⟩

theorem Spared.forsakers_pos (h : Spared s s' r) (hpos : 0 < s'.forsakers r) :
    0 < s.forsakers r :=
  Nat.pos_of_ne_zero fun hzero => Nat.ne_of_gt hpos (h.unforsaken hzero)

theorem Spared.trans (h : Spared s s' r) (h' : Spared s' t r) : Spared s t r where
  now := Int.le_trans h.now h'.now
  config := h'.config.trans h.config
  clockEnd := h'.clockEnd.trans h.clockEnd
  failures := h'.failures.trans h.failures
  key := h'.key.trans h.key
  state := by
    rcases h.state with hsame | ⟨hpending, hended⟩
    · rw [← hsame, isPending, ← hsame]
      exact h'.state.imp_right (.imp_right (.imp_right (.imp_left h.forsakers_pos)))
    · rcases h'.state with hsame | ⟨hpending', -⟩
      · rw [hsame]
        exact .inr ⟨hpending, hended⟩
      · rcases hended with hcancelled | ⟨-, hfailed⟩
        · rw [isPending, hcancelled] at hpending'
          cases hpending'
        · rw [isPending, hfailed] at hpending'
          cases hpending'
  unforsaken := fun hzero => h'.unforsaken (h.unforsaken hzero)

/-- While there is a pump, nobody is added to those who could start none. -/
theorem Spared.forsakers_before (h : Spared s u r) (hpump : u.pump = some phase)
    (hstep : u.step a = some t) (hpos : 0 < t.forsakers r) : 0 < s.forsakers r := by
  refine h.forsakers_pos (Nat.pos_of_ne_zero fun hzero => Nat.ne_of_gt hpos ?_)
  exact step_forsakers_manned hstep (by rw [hpump]; exact Option.some_ne_none _) hzero

/-- A record in the pump's hand is in no other hand, and not in the delay queue. -/
theorem Tame.in_hand (h : Tame s r) (hpump : s.pump = some phase)
    (hrecord : phase.record? = some r) :
    s.queue.holds r = 0 ∧ s.pool.hands r = 0 ∧ s.arriving r = 0 := by
  rcases h with hsole | hdangling
  · have hplaces := places_of_record hpump hrecord r
    have hholds : s.pool.holds r = s.pool.queue.count r + s.pool.hands r := rfl
    have hbound : s.places r + s.arriving r ≤ 1 := hsole
    rw [beq_self_eq_true, Bool.toNat_true] at hplaces
    omega
  · obtain ⟨hqueue, -, hhands, harriving⟩ := hdangling.alone
    exact ⟨hqueue, hhands, harriving⟩

/-- Nobody but the pump changes the record, but a call may cancel it, and a worker that could start
no pump for it rejects it. -/
theorem Move.spared_record {x : Record α} (h : Move s a t) (ha : a.isPump = false)
    (hhands : s.pool.hands r = 0) (hx : s.record? r = some x) (hstate : x.state = .pending) :
    ∃ y, t.record? r = some y ∧ (y.state = .pending ∨ y.state = .cancelled ∨
      (0 < s.forsakers r ∧ y.state = .failed)) := by
  have hcalled : ∀ {duty duty' : Duty} {u : System α}, CallMove s duty u duty' →
      ∃ y, u.record? r = some y ∧ (y.state = .pending ∨ y.state = .cancelled ∨
        (0 < s.forsakers r ∧ y.state = .failed)) := by
    intro duty duty' u hcall
    obtain ⟨y, hy, hafter⟩ := hcall.pending_record hx hstate
    exact ⟨y, hy, hafter.imp_right fun hcancelled => .inl hcancelled.1⟩
  cases h with
  | begun hcall =>
    obtain ⟨y, hy, hafter⟩ := hcalled hcall
    exact ⟨y, hy, hafter⟩
  | called _ hcall | callRefused _ hcall =>
    obtain ⟨y, hy, hafter⟩ := hcalled hcall
    exact ⟨y, hy, hafter⟩
  | pumped | pumpIdled | pumpFaulted => cases ha
  | worked hworker =>
    rcases hworker.untouched hhands with hsame | ⟨hcondemned, reason, hrejected⟩
    · exact ⟨x, hsame.trans hx, .inl hstate⟩
    · refine ⟨(x.reject reason).1, by rw [hrejected, hx]; rfl, .inr (.inr ⟨?_, ?_⟩)⟩
      · exact Nat.lt_of_lt_of_le hcondemned (condemned_le_forsakers s r)
      · rw [Record.reject, hstate]
        rfl
  | _ => exact ⟨x, hx, .inl hstate⟩

theorem step_spared (hstep : s.step a = some s') (hs : Reachable s) (ha : a.isPump = false)
    (htame : Tame s r) (hpump : s.pump = some phase) (hrecord : phase.record? = some r) :
    Spared s s' r := by
  obtain ⟨t, hmove, hcore⟩ := step_move hstep
  obtain ⟨-, hhands, -⟩ := htame.in_hand hpump hrecord
  have hkept : t.pump = s.pump := hmove.pump_kept ha (by rw [hpump]; exact Option.some_ne_none _)
  have hkept' : s'.pump = some phase :=
    ((congrArg (fun w => w.pump) hcore).trans hkept).trans hpump
  obtain ⟨x, hx⟩ := hs.known_in_hand hpump hrecord
  obtain ⟨y, hy, hkeeps⟩ := hmove.keeps.kept hx
  refine ⟨step_now_le hstep, step_config hstep, step_of_move (P := fun s' =>
    s'.clockEnd = s.clockEnd) (fun _ => rfl) (fun hmove => hmove.settings.2) hstep, ?_, ?_, ?_,
    step_forsakers_manned hstep (by rw [hpump]; exact Option.some_ne_none _)⟩
  · rcases hs.step_failures hstep with ⟨r', hnotes⟩ | hsame
    · obtain ⟨reason, hfailed⟩ := hnotes.failed
      rw [hpump, Option.some.injEq] at hfailed
      rcases hnotes.after with ⟨_, hafter⟩ | ⟨_, hafter, -⟩ <;>
        cases hfailed.symm.trans (Option.some.inj (hkept'.symm.trans hafter))
    · exact hsame r
  · have hnot : postpones r s a t = false := by
      rw [postpones, hkept, hpump]
      cases phase <;> simp [PumpPhase.isPostponing]
    refine of_core (P := fun s' => s'.key r = s.key r) (fun _ => rfl) hcore ?_
    rw [key_of_record hy, key_of_record hx,
      hmove.key hnot (endsWell_eq_false hhands) hx hy]
  · refine of_core (P := fun s' => s'.state? r = s.state? r ∨ (s.isPending r = true ∧
      (s'.state? r = some .cancelled ∨ (0 < s.forsakers r ∧ s'.state? r = some .failed))))
      (fun _ => rfl) hcore ?_
    have hstate : s.state? r = some x.state := state?_eq_some.mpr ⟨x, hx, rfl⟩
    have hfinal : x.isFinal = true → t.state? r = s.state? r := fun hfinal => by
      rw [hstate]
      exact state?_eq_some.mpr ⟨y, hy, hkeeps.final hfinal⟩
    cases hx' : x.state with
    | pending =>
      obtain ⟨y', hy', hafter⟩ := hmove.spared_record ha hhands hx hx'
      refine hafter.imp (fun hpending => ?_) fun hended => ⟨isPending_iff.mpr ⟨x, hx, hx'⟩, ?_⟩
      · rw [hstate, hx']
        exact state?_eq_some.mpr ⟨y', hy', hpending⟩
      · exact hended.imp (fun hcancelled => state?_eq_some.mpr ⟨y', hy', hcancelled⟩)
          (.imp_right fun hfailed => state?_eq_some.mpr ⟨y', hy', hfailed⟩)
    | running =>
      have hone := (hs.attended r).running (hstate.trans (congrArg some hx'))
      have hhands' := s.hands_eq r
      omega
    | cancelled | done | failed => exact .inl (hfinal (by rw [Record.isFinal, hx']; rfl))

/-! ## Turns -/

theorem pumpHolds_pos_iff :
    0 < s.pumpHolds r ↔ ∃ phase, s.pump = some phase ∧ phase.record? = some r := by
  constructor
  · intro h
    rw [pumpHolds] at h
    cases hpump : s.pump with
    | none =>
      rw [hpump] at h
      cases h
    | some phase =>
      rw [hpump, Option.bind_some] at h
      cases hrecord : phase.record? == some r with
      | true => exact ⟨phase, rfl, eq_of_beq hrecord⟩
      | false =>
        rw [hrecord] at h
        cases h
  · rintro ⟨phase, hpump, hrecord⟩
    rw [pumpHolds_of_record hpump hrecord, beq_self_eq_true]
    exact Nat.one_pos

/-- A run over which the pump has the record in hand, up to the last step, at which it lets go. -/
inductive Turn (r : Ref) : System α → List (Action α) → System α → Prop where
  | ended {t : System α} : t.pumpHolds r = 0 → Turn r t [] t
  | goesOn {s s' t : System α} {a : Action α} {rest : List (Action α)} : 0 < s.pumpHolds r →
      s.step a = some s' → Turn r s' rest t → Turn r s (a :: rest) t

theorem exec_of_step {rest : List (Action α)} (hstep : s.step a = some s')
    (hrest : s'.exec rest = some t) : s.exec (a :: rest) = some t :=
  Option.bind_eq_some_iff.mpr ⟨s', hstep, hrest⟩

theorem Turn.exec (h : Turn r s actions t) : s.exec actions = some t := by
  induction h with
  | ended _ => rfl
  | goesOn _ hstep _ ih => exact exec_of_step hstep ih

/-- The record is not in the pump's hand. -/
def handsFree (r : Ref) (s : System α) (_ : Action α) (_ : System α) : Bool := s.pumpHolds r == 0

theorem Turn.of_exec (hrun : s.exec actions = some t)
    (hholds : s.occurrences (handsFree r) actions = 0) (hends : t.pumpHolds r = 0) :
    Turn r s actions t := by
  induction actions generalizing s with
  | nil =>
    cases hrun
    exact .ended hends
  | cons a rest ih =>
    obtain ⟨s', hstep, hrest⟩ := exec_cons hrun
    obtain ⟨hnow, hlater⟩ := occurrences_cons_eq_zero hstep hholds
    exact .goesOn (Nat.pos_of_ne_zero (ne_of_beq_false hnow)) hstep (ih hrest hlater)

/-- A turn goes on with the next section of the pump. The others may come before it, but they spare
the record. -/
theorem Turn.next_section (h : Turn r s actions t) (hs : Reachable s) (htame : Tame s r)
    (hpump : s.pump = some phase) (hrecord : phase.record? = some r)
    (hsettled : phase.canFault = false)
    (hnot : s.occurrences (takesUpFaulted r) actions = 0) :
    ∃ (u v : System α) (choice : Nat) (rest : List (Action α)),
      u.pump = some phase ∧ Reachable u ∧ Tame u r ∧ Spared s u r ∧
        u.step (.pump choice) = some v ∧ Turn r v rest t ∧
        ∀ event, u.occurrences event (.pump choice :: rest) ≤ s.occurrences event actions := by
  induction h with
  | ended hends => exact absurd hends (Nat.ne_of_gt (pumpHolds_pos_iff.mpr ⟨_, hpump, hrecord⟩))
  | @goesOn s s' t a rest _ hstep hrest ih =>
    obtain ⟨hevent, hnot'⟩ := occurrences_cons_eq_zero hstep hnot
    have hphase : phase ≠ .waiting := by
      rintro rfl
      cases hrecord
    cases step_pump hstep hpump hphase with
    | other ha hkept =>
      obtain ⟨u, v, choice, rest', hu, hreach, htame', hspared, hnext, hturn, hfewer⟩ :=
        ih (hs.step a hstep) (htame.step hs hstep hevent) hkept hnot'
      refine ⟨u, v, choice, rest', hu, hreach, htame',
        (step_spared hstep hs ha htame hpump hrecord).trans hspared, hnext, hturn, fun event => ?_⟩
      rw [occurrences_cons hstep]
      exact Nat.le_trans (hfewer event) (Nat.le_add_left _ _)
    | own _ =>
      exact ⟨s, s', _, rest, hpump, hs, htame, .refl s r, hstep, hrest, fun _ => Nat.le_refl _⟩
    | panic hfault _ =>
      rw [hsettled] at hfault
      cases hfault

theorem Turn.ended_of_released (h : Turn r s actions t) (hs : s.pumpHolds r = 0) : t = s := by
  cases h with
  | ended _ => rfl
  | goesOn hholds _ _ => omega

/-- The pump alone holds the record, once there is no panic to be cleaned up. -/
theorem Tame.only_in_hand {phase : PumpPhase} (h : Tame s r) (hpump : s.pump = some phase)
    (hrecord : phase.record? = some r) (hsound : phase.isFaulted r = false) :
    s.queue.holds r = 0 ∧ s.pool.holds r = 0 := by
  have hsole : s.places r + s.arriving r ≤ 1 := h.sole (by rw [hpump]; exact hsound)
  have hplaces := places_of_record hpump hrecord r
  rw [beq_self_eq_true, Bool.toNat_true] at hplaces
  omega

/-! ## The clean-up -/

/-- One section of the pump after a failed hand-off. -/
inductive CleansUp (r : Ref) (phase : PumpPhase) (s t : System α) : Prop where
  | goesOn {next : PumpPhase} : t.pump = some next → next.isAfterFailure = true →
      next.record? = some r → next.isFaulted r = false → t.queue = s.queue →
      t.pool = (if phase.isFaulted r then (s.pool.withdraw r).1 else s.pool) →
      (∀ r', r' ≠ r → t.record? r' = s.record? r') → CleansUp r phase s t
  /-- The pump lets go of the record, and puts it back if it is pending. -/
  | ended : t.pump = some .waiting → phase.isFaulted r = false → t.pool = s.pool →
      t.queue = s.queue.putBack (t.isPending r) (s.key r) r →
      (t.isPending r = true → s.isPending r = true) →
      (∀ r', r' ≠ r → t.record? r' = s.record? r') → CleansUp r phase s t

theorem CleansUp.congr (h : CleansUp r phase s t) (hcore : u.core = t.core) :
    CleansUp r phase s u := by
  have hpump : u.pump = t.pump := congrArg (fun w => w.pump) hcore
  have hqueue : u.queue = t.queue := congrArg (fun w => w.queue) hcore
  have hpool : u.pool = t.pool := congrArg (fun w => w.pool) hcore
  have hrecords : u.records = t.records := congrArg (fun w => w.records) hcore
  have hrecord : ∀ r', u.record? r' = t.record? r' := fun r' => congrArg (·[r']?) hrecords
  have hpending : u.isPending r = t.isPending r := isPending_congr hrecords
  cases h with
  | goesOn hnext hafter hrec hsound hqueue' hpool' hothers =>
    exact .goesOn (hpump.trans hnext) hafter hrec hsound (hqueue.trans hqueue')
      (hpool.trans hpool') fun r' hr => (hrecord r').trans (hothers r' hr)
  | ended hwaiting hsound hpool' hqueue' hback hothers =>
    exact .ended (hpump.trans hwaiting) hsound (hpool.trans hpool')
      (by rw [hqueue, hpending]; exact hqueue') (by rw [hpending]; exact hback)
      fun r' hr => (hrecord r').trans (hothers r' hr)

theorem PumpMove.cleans_up (h : PumpMove s t) (hpump : s.pump = some phase)
    (hrecord : phase.record? = some r) (hafter : phase.isAfterFailure = true) :
    CleansUp r phase s t := by
  have hmodified : ∀ {g : Record α → Record α} {u : System α},
      u.records = s.records.modify r g → ∀ r', r' ≠ r → u.record? r' = s.record? r' := by
    intro g u hu r' hr
    rw [record?_of_modify hu, if_neg (Ne.symm hr)]
  have hsame : ∀ {phase' : PumpPhase}, s.pump = some phase' → phase = phase' :=
    fun hpump' => Option.some.inj (hpump.symm.trans hpump')
  cases h with
  | took hpump' _ _ | idled hpump' _ _ | drained hpump' _ _ | gaveUp hpump' | handedOver _ hpump' _
  | refused _ hpump' _ | unwound _ hpump' _ | stopped hpump' _ | sawDrained hpump' _
  | concluded hpump' =>
    cases hsame hpump'
    cases hafter
  | passedOver hpump' hrecord' hlooks hnot =>
    cases hsame hpump'
    cases hrecord.symm.trans hrecord'
    have hnone : ({ s with pump := some .waiting } : System α).isPending r = false := hnot
    refine .ended rfl ?_ rfl ?_ (fun hpending => ?_) fun _ _ => rfl
    · cases phase <;> first | rfl | cases hlooks
    · rw [hnone]
      rfl
    · rw [hnone] at hpending
      cases hpending
  | wentOn hpump' hgoes =>
    cases hsame hpump'
    cases hgoes with
    | @failed r' failure reason _ =>
      cases hrecord
      exact .goesOn rfl rfl rfl rfl rfl rfl fun _ _ => rfl
    | faulted _ hcan _ =>
      rw [PumpPhase.canFault_of_after hafter] at hcan
      cases hcan
    | _ => cases hafter
  | withdrew hpump' =>
    cases hsame hpump'
    cases hrecord
    refine .goesOn rfl rfl rfl rfl rfl ?_ fun _ _ => rfl
    rw [PumpPhase.isFaulted, beq_self_eq_true, if_pos rfl]
  | noted hpump' hnext =>
    cases hsame hpump'
    cases hrecord
    cases hnext <;> exact .goesOn rfl rfl rfl rfl rfl rfl (hmodified rfl)
  | rejected hpump' =>
    cases hsame hpump'
    cases hrecord
    rename_i reason
    have hnone : ({ s with
        records := s.records.modify r fun record => (record.reject reason).1
        pump := some .waiting } : System α).isPending r = false := by
      refine isPending_of_modify rfl fun x => ?_
      cases hstate : x.state <;> simp [Record.reject, Record.finish, hstate]
    refine .ended rfl rfl rfl ?_ (fun hpending => ?_) (hmodified rfl)
    · rw [hnone]
      rfl
    · rw [hnone] at hpending
      cases hpending
  | postponed hpump' =>
    cases hsame hpump'
    cases hrecord
    exact .goesOn rfl rfl rfl rfl rfl rfl (hmodified rfl)
  | returned hpump' =>
    cases hsame hpump'
    cases hrecord
    exact .ended rfl rfl rfl rfl (fun hpending => hpending) fun _ _ => rfl

/-- After a failed hand-off the pump cleans up; the others leave it at what it is doing. -/
theorem step_cleans_up (hstep : s.step a = some s') (hpump : s.pump = some phase)
    (hrecord : phase.record? = some r) (hafter : phase.isAfterFailure = true) :
    (a.isPump = false ∧ s'.pump = some phase) ∨ CleansUp r phase s s' := by
  cases step_pump hstep hpump (by rintro rfl; cases hrecord) with
  | other ha hkept => exact .inl ⟨ha, hkept⟩
  | own hown =>
    obtain ⟨t, hmove, hcore⟩ := pumpStep_move hown
    exact .inr ((hmove.cleans_up hpump hrecord hafter).congr hcore)
  | panic hcan _ =>
    rw [PumpPhase.canFault_of_after hafter] at hcan
    cases hcan

/-- At the end of the turn the pump waits for the next record, the pool does not have this one, and
the delay queue has it if it is pending. -/
theorem Turn.cleaned_up (h : Turn r s actions t) (hs : Reachable s) (htame : Tame s r)
    (hpump : s.pump = some phase) (hrecord : phase.record? = some r)
    (hafter : phase.isAfterFailure = true)
    (hnot : s.occurrences (takesUpFaulted r) actions = 0) :
    t.pump = some .waiting ∧ t.pool.holds r = 0 ∧ t.queue.holds r = (t.isPending r).toNat := by
  induction h generalizing phase with
  | ended hends => exact absurd hends (Nat.ne_of_gt (pumpHolds_pos_iff.mpr ⟨_, hpump, hrecord⟩))
  | @goesOn s s' t a rest _ hstep hrest ih =>
    obtain ⟨hevent, hnot'⟩ := occurrences_cons_eq_zero hstep hnot
    have hs' := hs.step a hstep
    have htame' := htame.step hs hstep hevent
    rcases step_cleans_up hstep hpump hrecord hafter with ⟨-, hkept⟩ | hcleans
    · exact ih hs' htame' hkept hrecord hafter hnot'
    · cases hcleans with
      | goesOn hnext hafter' hrecord' _ _ _ _ => exact ih hs' htame' hnext hrecord' hafter' hnot'
      | ended hwaiting hsound hpool hqueue hback _ =>
        obtain rfl : t = s' := hrest.ended_of_released (pumpHolds_of_none (by rw [hwaiting]; rfl) r)
        obtain ⟨hqueued, houtside⟩ := htame.only_in_hand hpump hrecord hsound
        refine ⟨hwaiting, by rw [hpool]; exact houtside, ?_⟩
        cases hpending : t.isPending r with
        | false =>
          rw [hpending] at hqueue
          rw [hqueue]
          exact hqueued
        | true =>
          have hentries := (s.queue.putBack_entries (s.isPending r) (s.key r) r).1
          rw [hback hpending] at hentries
          rw [hpending] at hqueue
          rw [← hqueue] at hentries
          obtain ⟨-, hle, hge⟩ := holds_offered (t := t) hs.numbered
            (by rw [hback hpending]; exact hentries) r
          have hge := hge (hback hpending)
          rw [beq_self_eq_true, Bool.toNat_true] at hle hge
          rw [Bool.toNat_true]
          omega

/-! ## A turn can be carried out -/

/-- The pump can go through with what it has begun, by sections of its own. -/
def Completes (r : Ref) (s : System α) : Prop :=
  ∃ (actions : List (Action α)) (t : System α), Turn r s actions t ∧ ∀ a ∈ actions, a = .pump 0

theorem Completes.of_waiting (h : s.pump = some .waiting) : Completes r s :=
  ⟨[], s, .ended (pumpHolds_of_none (by rw [h]; rfl) r), nofun⟩

theorem Completes.of_section (hpump : s.pump = some phase) (hrecord : phase.record? = some r)
    (hstep : s.pumpStep 0 = some s') (h : Completes r s') : Completes r s := by
  obtain ⟨actions, t, hturn, hown⟩ := h
  refine ⟨.pump 0 :: actions, t, .goesOn (pumpHolds_pos_iff.mpr ⟨_, hpump, hrecord⟩) hstep hturn,
    ?_⟩
  rintro a (_ | ⟨_, ha⟩)
  · rfl
  · exact hown a ha

theorem completes_of_offering (hpump : s.pump = some (.offering r)) : Completes r s :=
  .of_section hpump rfl (by rw [pumpStep, hpump]) (.of_waiting rfl)

theorem completes_of_failed {reason : String} (hpump : s.pump = some (.failed r reason)) :
    Completes r s := by
  refine .of_section hpump rfl (by rw [pumpStep, hpump]) ?_
  unfold pumpFail
  simp only
  split
  · exact .of_section rfl rfl rfl (.of_waiting rfl)
  · exact .of_section rfl rfl rfl (completes_of_offering rfl)

theorem completes_of_withdrawn {failure : Failure}
    (hpump : s.pump = some (.withdrawn r failure)) : Completes r s := by
  refine .of_section hpump rfl (by rw [pumpStep, hpump]) ?_
  split
  · exact completes_of_failed rfl
  · exact .of_waiting rfl

/-- After a panic nothing keeps the pump from getting through with it. -/
theorem completes_of_faulted {failure : Failure} (hpump : s.pump = some (.faulted r failure)) :
    Completes r s :=
  .of_section hpump rfl (by rw [pumpStep, hpump]) (completes_of_withdrawn rfl)

end System

end TaskScheduler
