import TaskScheduler.Proofs.Drain
import TaskScheduler.Proofs.FailedSubmission

/-
  Only what was submitted runs, and only what was submitted ends.

  From the moment at which its submission has put a record into a queue until it is counted as
  accepted the record is `Admitted`, and it stays so if every pump that is asked for can be started.
  `Vouched`: then a record that the service holds, or that does not wait any more, is admitted.
  Nobody else can end a record: clients cancel by handles, which they get for accepted records, and
  a batch cancels what it has had accepted before (`Call.targets`). A panic that goes through a
  submission breaks this, for it leaves its record in the run queue.
-/
namespace TaskScheduler

/-- The record that is to be cancelled. -/
def Withdrawal.record : Withdrawal → Ref
  | asking r _ | removing r _ | counting r | answered r _ => r

/-- The records that the call may cancel, now or later. -/
def Call.targets {α : Type} : Call α → List Ref
  | withdrawal stage => [stage.record]
  | batch (.submitting accepted _ _) => accepted
  | batch (.cancelling _ current left) => current.record :: left
  | _ => []

theorem Call.target_of_withdrawal {α : Type} {call : Call α} {stage : Withdrawal}
    (h : call.withdrawal? = some stage) : stage.record ∈ call.targets := by
  cases call with
  | withdrawal stage' =>
    cases h
    exact List.mem_singleton_self _
  | batch stage' =>
    cases stage' with
    | cancelling error current left =>
      cases h
      exact List.mem_cons_self
    | _ => cases h
  | _ => cases h

namespace System

variable {α : Type} {s s' t u : System α} {a : Action α} {duty duty' : Duty} {r : Ref}
  {choice : Nat}

/-! ## What stays admitted -/

theorem CallMove.admits_kept (h : CallMove s duty t duty') (hname : s.pumpNameFault? = none)
    (hr : duty.admits r = true) :
    duty'.admits r = true ∨ r ∈ t.accepted ∨ duty'.followsRefusal = true := by
  cases h with
  | launched _ _ => exact .inl hr
  | counted _ =>
    exact .inr (.inl (List.mem_append_right _ (List.mem_singleton.mpr (eq_of_beq hr).symm)))
  | misnamed hfault =>
    rw [hname] at hfault
    cases hfault
  | unlaunched _ _ => exact .inr (.inr rfl)
  | _ => cases hr

theorem Move.accepted_kept (h : Move s a t) (hr : r ∈ s.accepted) : r ∈ t.accepted := by
  rcases h.kinds with ⟨u, _, _, hcall, -, ht⟩ | hpump | hworker | howner | ⟨now, rfl⟩
  · rw [ht]
    cases hcall with
    | counted _ => exact List.mem_append_left _ hr
    | _ => exact hr
  · cases hpump <;> exact hr
  · cases hworker <;> exact hr
  · cases howner <;> exact hr
  · exact hr

/-- An admitted record stays so, unless its submission finds that no pump can be started. -/
theorem Move.admitted_kept (h : Move s a t) (hname : s.pumpNameFault? = none)
    (hnone : t.denied = 0) (hr : s.Admitted r) : t.Admitted r := by
  rcases hr with haccepted | howing
  · exact .inl (h.accepted_kept haccepted)
  · have hsame : t.calls = s.calls → t.Admitted r := fun hcalls =>
      .inr (by rw [owing_congr hcalls]; exact howing)
    rcases h.kinds with ⟨u, duty, duty', hcall, howes, ht⟩ | hpump | hworker | howner | ⟨now, rfl⟩
    · have hcount := howes.count (·.admits r) rfl
      cases hduty : duty.admits r with
      | false =>
        rw [hduty, Bool.toNat_false] at hcount
        exact .inr (by omega)
      | true =>
        rw [hduty, Bool.toNat_true] at hcount
        rcases hcall.admits_kept hname hduty with hduty' | haccepted | hduty'
        · rw [hduty', Bool.toNat_true] at hcount
          exact .inr (by omega)
        · exact .inl (by rw [ht]; exact haccepted)
        · have hrefused := howes.count (·.followsRefusal) rfl
          have hle := howes.le (f := (·.followsRefusal)) rfl
          have howing : t.owing (·.followsRefusal) = 0 := Nat.eq_zero_of_add_eq_zero_right hnone
          rw [hduty', Bool.toNat_true] at hrefused
          omega
    · exact hsame hpump.calls
    · exact hsame hworker.calls
    · exact hsame (by cases howner <;> rfl)
    · exact hsame rfl

theorem step_admitted (hstep : s.step a = some s') (hname : s.pumpNameFault? = none)
    (hnone : s'.denied = 0) (hr : s.Admitted r) : s'.Admitted r :=
  step_of_move (P := fun s' => s'.denied = 0 → s'.Admitted r) (fun _ => rfl)
    (fun h hnone => h.admitted_kept hname hnone hr) hstep hnone

theorem step_accepted (hstep : s.step a = some s') (hr : r ∈ s.accepted) : r ∈ s'.accepted :=
  step_of_move (P := fun s' => r ∈ s'.accepted) (fun _ => rfl) (fun h => h.accepted_kept hr) hstep

/-! ## What calls may cancel -/

theorem withdrawalStep_record {stage stage' : Withdrawal}
    (h : s.withdrawalStep stage = some (u, stage')) : stage'.record = stage.record := by
  cases stage with
  | asking r mayInterrupt =>
    simp only [withdrawalStep] at h
    split at h <;> cases h <;> rfl
  | removing r k =>
    cases h
    rfl
  | counting r =>
    cases h
    rfl
  | answered r accepted => cases h

theorem submissionStep_accepted {stage : Submission}
    (h : s.submissionStep choice stage = some (u, .accepted r)) : r ∈ u.accepted := by
  cases stage with
  | counting r' kind =>
    cases h
    exact List.mem_append_right _ (List.mem_singleton_self _)
  | arriving =>
    simp only [submissionStep] at h
    split at h <;> cases h
  | executing r' =>
    simp only [submissionStep] at h
    split at h <;> cases h
  | checking r' kind =>
    simp only [submissionStep] at h
    split at h <;> cases h
  | offering r' kind =>
    simp only [submissionStep] at h
    split at h <;> cases h
  | startingPump r' kind k =>
    simp only [submissionStep] at h
    split at h
    · cases h
    · split at h <;> cases h
  | _ => cases h

theorem batchNext_targets {accepted : List Ref} {left : Nat} {stage : Submission}
    (hr : r ∈ (Call.batch (batchNext accepted left stage : Batch α)).targets) :
    r ∈ accepted ∨ stage = .accepted r := by
  cases stage with
  | accepted r' =>
    cases left with
    | zero => cases hr
    | succ n =>
      exact (List.mem_append.mp hr).imp_right fun hmem => by rw [List.mem_singleton.mp hmem]
  | failed record error =>
    cases accepted with
    | nil => cases hr
    | cons r' rest => exact .inl hr
  | aborted r' failure => cases hr
  | _ => exact .inl hr

theorem batchStep_targets {stage stage' : Batch α}
    (h : s.batchStep choice stage = some (u, stage')) (hr : r ∈ (Call.batch stage').targets) :
    r ∈ (Call.batch stage).targets ∨ r ∈ u.accepted := by
  cases stage with
  | submitting accepted current left =>
    obtain ⟨⟨v, next⟩, hnext, heq⟩ := Option.map_eq_some_iff.mp h
    cases heq
    rcases batchNext_targets hr with hold | rfl
    · exact .inl hold
    · exact .inr (submissionStep_accepted hnext)
  | cancelling error current left =>
    obtain ⟨⟨v, next⟩, hnext, heq⟩ := Option.map_eq_some_iff.mp h
    have hrecord := withdrawalStep_record hnext
    refine .inl ?_
    cases next with
    | answered r' answer =>
      cases left with
      | nil =>
        cases heq
        cases hr
      | cons r'' rest =>
        cases heq
        exact List.mem_cons_of_mem _ hr
    | _ =>
      cases heq
      show r ∈ current.record :: left
      rw [← hrecord]
      exact hr
  | collecting outcomes left =>
    cases left with
    | nil =>
      cases h
      cases hr
    | cons r' rest =>
      simp only [batchStep] at h
      split at h <;> cases h
      cases hr
  | _ => cases h

/-- A call comes to cancel what it could cancel before, or has had accepted. -/
theorem stageStep_targets {call call' : Call α} (h : s.stageStep choice call = some (u, call'))
    (hr : r ∈ call'.targets) : r ∈ call.targets ∨ r ∈ u.accepted := by
  cases call with
  | withdrawal stage =>
    obtain ⟨⟨v, stage'⟩, hstage, heq⟩ := Option.map_eq_some_iff.mp h
    cases heq
    rw [Call.targets, withdrawalStep_record hstage] at hr
    exact .inl hr
  | batch stage =>
    obtain ⟨⟨v, stage'⟩, hstage, heq⟩ := Option.map_eq_some_iff.mp h
    cases heq
    exact batchStep_targets hstage hr
  | _ =>
    obtain ⟨_, _, heq⟩ := Option.map_eq_some_iff.mp h
    cases heq
    cases hr

/-- Whoever asks for a cancellation has a handle. -/
theorem firstStage_targets {request : Request} (hr : r ∈ (s.firstStage request).2.targets) :
    request.handle? = some r := by
  cases request with
  | cancel r' mayInterrupt => rw [List.mem_singleton.mp hr]; rfl
  | scheduleSeries delay recurrence =>
    simp only [firstStage] at hr
    split at hr <;> cases hr
  | submitAll count => cases count <;> cases hr
  | _ => cases hr

/-- All records that calls may cancel have been accepted. -/
def Licensed (s : System α) : Prop := ∀ call ∈ s.calls, ∀ r ∈ call.targets, r ∈ s.accepted

theorem Licensed.step (h : Licensed s) (hs : Reachable s) (hstep : s.step a = some s') :
    Licensed s' := by
  have hkept : ∀ call ∈ s.calls, ∀ r ∈ call.targets, r ∈ s'.accepted :=
    fun call hcall r hr => step_accepted hstep (h call hcall r hr)
  rcases step_calls hstep with
    ⟨hsame, -⟩ | ⟨request, rfl, hbegun⟩ | ⟨j, choice, call, u, call', rfl, hj, hstage, rfl⟩ |
      ⟨j, reason, call, u, call', rfl, hj, hrefusal, rfl⟩
  · intro call hcall
    exact hkept call (hsame ▸ hcall)
  · intro call hcall r hr
    rw [hbegun] at hcall
    rcases List.mem_append.mp hcall with hold | hnew
    · exact hkept call hold r hr
    · rw [List.mem_singleton.mp hnew] at hr
      have hhandle := firstStage_targets hr
      refine step_accepted hstep (hs.handles r ?_)
      rw [System.step] at hstep
      split at hstep
      next hgranted => simpa [hhandle] using hgranted
      next => cases hstep
  · intro call'' hcall r hr
    rcases List.mem_or_eq_of_mem_set hcall with hold | rfl
    · exact hkept call'' hold r hr
    · rcases stageStep_targets hstage hr with hbefore | haccepted
      · exact hkept call (List.mem_of_getElem? hj) r hbefore
      · exact haccepted
  · intro call'' hcall r hr
    rcases List.mem_or_eq_of_mem_set hcall with hold | rfl
    · exact hkept call'' hold r hr
    · cases hrefusal <;> cases hr

theorem Reachable.licensed (h : Reachable s) : Licensed s := by
  induction h with
  | initial host name config clockEnd now => exact nofun
  | step a hs hstep ih => exact ih.step hs hstep

/-! ## Who is vouched for -/

/-- A record that the service holds, or that does not wait any more, has been admitted. -/
structure Vouched (s : System α) (r : Ref) : Prop where
  held : 0 < s.places r → s.Admitted r
  moved : r < s.records.length → s.isPending r = false → s.Admitted r

/-- A call gets a record in, or a panic of the factory goes through it. -/
theorem CallMove.enters (h : CallMove s duty t duty') (hs : Numbered s)
    (hfactory : s.pool.factory.Contained) (hpos : 0 < t.places r) :
    0 < s.places r ∨ duty'.admits r = true := by
  have hsame : t.places r = s.places r → 0 < s.places r ∨ duty'.admits r = true :=
    fun hplaces => .inl (hplaces ▸ hpos)
  cases h with
  | @executed r' choice hanswer =>
    by_cases hr : r' = r
    · exact .inr (beq_iff_eq.mpr hr)
    · exact hsame (places_with_pool (n := 0) (Pool.execute_holds_other hr choice))
  | @refused r' error choice hanswer =>
    have hholds := Pool.execute_holds s.pool r' choice r
    rw [hanswer] at hholds
    exact hsame (places_with_pool (n := 0) hholds)
  | @unwound r' failure choice hanswer =>
    have hholds := Pool.execute_holds s.pool r' choice r
    rw [hanswer] at hholds
    exact absurd hholds.2 (hfactory _ _ failure)
  | @offered r' queue needsPump hoffer =>
    by_cases hr : r' = r
    · refine .inr ?_
      cases needsPump <;> exact beq_iff_eq.mpr hr
    · obtain ⟨-, -, -, -, hentries⟩ := DelayQueue.offer_eq_some hoffer
      have hle : queue.holds r ≤ s.queue.holds r + (r' == r).toNat :=
        (holds_offered (t := { s with queue }) hs hentries r).2.1
      rw [beq_false_of_ne hr, Bool.toNat_false, Nat.add_zero] at hle
      have hbefore : s.places r = s.queue.holds r + s.pumpHolds r + s.pool.holds r := rfl
      have hafter : 0 < queue.holds r + s.pumpHolds r + s.pool.holds r := hpos
      exact .inl (by omega)
  | @removed r' k | @retracted r' k =>
    have hle := DelayQueue.remove_holds_le s.queue k r
    have hbefore : s.places r = s.queue.holds r + s.pumpHolds r + s.pool.holds r := rfl
    have hafter : 0 < (s.queue.remove k).1.holds r + s.pumpHolds r + s.pool.holds r := hpos
    exact .inl (by omega)
  | launched hpump _ => exact hsame (places_launched hpump)
  | launchedLast hpump _ => exact hsame (places_launched hpump)
  | replacedLast hpump _ =>
    exact hsame (places_launched (s := { s with queue := s.queue.releaseConsumer }) hpump)
  | _ => exact hsame rfl

theorem Move.enters (h : Move s a t) (hs : Reachable s) (hfactory : s.pool.factory.Contained)
    (hpos : 0 < t.places r) : 0 < s.places r ∨ t.Admitted r := by
  rcases h.kinds with ⟨u, duty, duty', hcall, howes, ht⟩ | hpump | hworker | howner | ⟨now, rfl⟩
  · have hplaces : 0 < u.places r := by rw [ht] at hpos; exact hpos
    refine (hcall.enters hs.numbered hfactory hplaces).imp_right fun hduty => .inr ?_
    have hcount := howes.count (·.admits r) rfl
    have hle := howes.le (f := (·.admits r)) rfl
    rw [hduty, Bool.toNat_true] at hcount
    omega
  · rcases hpump.moves hs.numbered r with hmoves | hdoubles
    · exact .inl (Nat.lt_of_lt_of_le hpos hmoves.bounded)
    · exact .inl hdoubles.held
  · exact .inl (Nat.lt_of_lt_of_le hpos (hworker.moves hs.numbered hs.attended r).bounded)
  · exact .inl (Nat.lt_of_lt_of_le hpos (howner.moves r).bounded)
  · exact .inl hpos

theorem places_pos_of_hand {i : Nat} {phase : WorkerPhase} (hphase : s.pool.phase? i = some phase)
    (hhand : phase.hand? = some r) : 0 < s.places r := by
  have hpos : 0 < s.pool.hands r := Pool.tally_pos hphase (by rw [hhand]; exact beq_self_eq_true _)
  show 0 < s.queue.holds r + s.pumpHolds r + (s.pool.queue.count r + s.pool.hands r)
  omega

theorem places_pos_of_pump {phase : PumpPhase} (hpump : s.pump = some phase)
    (hrecord : phase.record? = some r) : 0 < s.places r := by
  have hholds := pumpHolds_of_record hpump hrecord r
  rw [beq_self_eq_true, Bool.toNat_true] at hholds
  show 0 < s.queue.holds r + s.pumpHolds r + s.pool.holds r
  omega

/-- A record stops waiting where it is held, or it is cancelled by a call. -/
theorem StopsWaiting.by_holder (h : StopsWaiting r s a t) (hnone : s.denied = 0) :
    0 < s.places r ∨ ∃ i k, t.withdrawalAt i = some (.removing r k) := by
  cases h with
  | began hphase _ => exact .inl (places_pos_of_hand hphase rfl)
  | stranded _ hqueued _ =>
    have hpos := List.count_pos_iff.mpr hqueued
    refine .inl ?_
    show 0 < s.queue.holds r + s.pumpHolds r + (s.pool.queue.count r + s.pool.hands r)
    omega
  | rejected hpump _ => exact .inl (places_pos_of_pump hpump rfl)
  | givenUp hpump _ => exact .inl (places_pos_of_pump hpump rfl)
  | refused hphase _ => exact .inl (places_pos_of_hand hphase rfl)
  | @unlaunched i reason hphase _ =>
    have hcondemned : 0 < s.condemned r := Pool.tally_pos hphase (beq_self_eq_true r)
    have hle := s.condemned_le_denied r
    omega
  | withdrawn _ hat _ => exact .inr ⟨_, _, hat⟩

theorem Licensed.withdrawn {i : Nat} {k : Key} (h : Licensed s)
    (hat : s.withdrawalAt i = some (.removing r k)) : r ∈ s.accepted := by
  obtain ⟨call, hcall, hstage⟩ := Option.bind_eq_some_iff.mp hat
  exact h call (List.mem_of_getElem? hcall) r (Call.target_of_withdrawal hstage)

/-- The steps of a service all of whose pumps can be started. -/
theorem Vouched.step (h : Vouched s r) (hs : Steady s) (hname : s.pumpNameFault? = none)
    (hnone : s.denied = 0) (ha : a.refusesPump = false) (hstep : s.step a = some s') :
    Vouched s' r := by
  have hnone' := step_denied_eq_zero hstep ha hnone
  have hkept : s.Admitted r → s'.Admitted r := step_admitted hstep hname hnone'
  constructor
  · intro hpos
    have henters : 0 < s.places r ∨ s'.Admitted r :=
      step_of_move (P := fun s' => 0 < s'.places r → 0 < s.places r ∨ s'.Admitted r)
        (fun _ => rfl) (fun hmove => hmove.enters hs.reachable hs.contained) hstep hpos
    exact henters.elim (fun hbefore => hkept (h.held hbefore)) fun h => h
  · intro hknown hnot
    rcases Nat.lt_or_ge r s.records.length with hold | hnew
    · cases hpending : s.isPending r with
      | false => exact hkept (h.moved hold hpending)
      | true =>
        have hstops := step_stops hstep (hs.reachable.attended r) hpending hnot
        rcases hstops.by_holder hnone with hheld | ⟨i, k, hat⟩
        · exact hkept (h.held hheld)
        · exact .inl ((hs.reachable.licensed.step hs.reachable hstep).withdrawn hat)
    · -- A new record waits.
      have hevolves : Evolves Record.Keeps s s' :=
        step_of_move (P := fun s' => Evolves Record.Keeps s s')
          (fun u => propext ⟨fun h => ⟨h.kept, h.made, h.counted⟩,
            fun h => ⟨h.kept, h.made, h.counted⟩⟩) Move.keeps hstep
      have hfresh := hevolves.made (List.getElem?_eq_getElem hknown)
        (List.getElem?_eq_none_iff.mpr hnew)
      rw [isPending_iff.mpr ⟨_, List.getElem?_eq_getElem hknown, hfresh.state⟩] at hnot
      cases hnot

theorem Vouched.initial (host : Host) (name : String) (config : ServiceConfig)
    (clockEnd now : Instant) (r : Ref) :
    Vouched (System.initial host name config clockEnd now : System α) r where
  held hpos := absurd hpos (Nat.lt_irrefl 0)
  moved hknown := absurd hknown (Nat.not_lt_zero r)

/-- What a run preserves whose factories keep their panics to themselves, and all of whose pumps can
be started. -/
theorem Steady.exec_vouched {actions : List (Action α)} (hs : Steady s)
    (h : ∀ r, Vouched s r) (hname : s.pumpNameFault? = none) (hnone : s.denied = 0)
    (hcontained : ∀ a ∈ actions, a.Contained) (hactions : ∀ a ∈ actions, a.refusesPump = false)
    (hrun : s.exec actions = some t) (r : Ref) : Vouched t r := by
  have hkept : Steady t ∧ t.pumpNameFault? = none ∧ t.denied = 0 ∧ ∀ r, Vouched t r := by
    refine exec_keeps (P := fun s => Steady s ∧ s.pumpNameFault? = none ∧ s.denied = 0 ∧
      ∀ r, Vouched s r) ?_ ⟨hs, hname, hnone, h⟩ hrun
    rintro s s' a ha ⟨hs, hname, hnone, h⟩ hstep
    exact ⟨hs.step (hcontained a ha) hstep, (step_pumpNameFault? hstep).trans hname,
      step_denied_eq_zero hstep (hactions a ha) hnone,
      fun r => (h r).step hs hname hnone (hactions a ha) hstep⟩
  exact hkept.2.2.2 r

end System

end TaskScheduler
