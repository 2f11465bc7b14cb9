import TaskScheduler.Proofs.FailedSubmission

/-
  Only the owner's disposal stops the service.

  `Move.setup`: the core size and the factory are changed by the owner alone, and `Move.rank_le`:
  the service never goes back in its life. As long as no disposal has begun it runs
  (`Reachable.exec_running`), and by `Winding` that keeps the delay queue open and the pool from
  closing. `Informed`: who is told the state of the service is not told that it runs. A submission
  that is begun later is turned away in two sections (`exec_turnedAway`), whatever the others do.
-/
namespace TaskScheduler

/-- The `i`-th call carries out its next section. -/
def Action.goesOn {α : Type} (i : Nat) : Action α → Bool
  | call j _ => j == i
  | _ => false

/-- The requests that submit work and have valid arguments. -/
def Request.submits : Request → Bool
  | submit | schedule _ => true
  | scheduleSeries _ recurrence => !System.hasZeroPeriod recurrence
  | submitAll count => count != 0
  | _ => false

/-- The sections that are left to a submission which is turned away: it asks whether the service
accepts work, and it is told the state of the service. -/
def Submission.sectionsLeft? : Submission → Option Nat
  | arriving | checking .. => some 2
  | explaining _ => some 1
  | failed _ (.rejected ..) => some 0
  | _ => none

/-- The sections that are left to a call whose first submission is turned away. -/
def Call.sectionsLeft? {α : Type} : Call α → Option Nat
  | submission stage | batch (.submitting [] stage _) => stage.sectionsLeft?
  | batch (.failed (.rejected ..)) => some 0
  | _ => none

/-- The error of a submission that has failed. -/
def Submission.error? : Submission → Option ServiceError
  | failed _ error => some error
  | _ => none

/-- The error that a call has failed with, or is to fail with. -/
def Call.error? {α : Type} : Call α → Option ServiceError
  | submission stage | batch (.submitting _ stage _) => stage.error?
  | batch (.failed error) | batch (.cancelling error ..) => some error
  | _ => none

/-- The call disposes of the service. -/
def Call.isDisposal {α : Type} : Call α → Bool
  | disposal _ => true
  | _ => false

namespace System

variable {α : Type} {s s' t u : System α} {a : Action α} {i : Nat} {call call' : Call α}

/-! ## Setup and life -/

/-- The core size and the factory of the pool are changed by the owner alone. -/
theorem Move.setup (h : Move s a t) :
    ((∀ size, a ≠ .setCoreSize size) → t.pool.coreSize = s.pool.coreSize) ∧
      ((∀ factory, a ≠ .setFactory factory) →
        t.pool.factory.start = s.pool.factory.start) := by
  cases h with
  | begun hmove => exact ⟨fun _ => hmove.setup.coreSize, fun _ => hmove.setup.start⟩
  | called _ hmove | callRefused _ hmove =>
    exact ⟨fun _ => hmove.setup.coreSize, fun _ => hmove.setup.start⟩
  | pumped hmove | pumpIdled hmove | pumpFaulted hmove =>
    exact ⟨fun _ => hmove.setup.1, fun _ => hmove.setup.2⟩
  | worked hmove => exact ⟨fun _ => hmove.setup.coreSize, fun _ => hmove.setup.start⟩
  | resized size =>
    have hsetup := Pool.act_setup (p := s.pool) (.setCoreSize size) rfl
    exact ⟨fun hnot => absurd rfl (hnot size), fun _ => hsetup.start nofun⟩
  | prestarted count =>
    have hsetup := Pool.act_setup (p := s.pool) (.prestart count) rfl
    exact ⟨fun _ => hsetup.coreSize nofun, fun _ => hsetup.start nofun⟩
  | refactored factory => exact ⟨fun _ => rfl, fun hnot => absurd rfl (hnot factory)⟩
  | timePassed time => exact ⟨fun _ => rfl, fun _ => rfl⟩
  | declined _ => exact ⟨fun _ => rfl, fun _ => rfl⟩

/-- The service never goes back in its life. -/
theorem Move.rank_le (h : Move s a t) : s.lifecycle.rank ≤ t.lifecycle.rank := by
  rcases h.kinds with ⟨u, _, _, hcall, -, heq⟩ | hpump | hworker | howner | ⟨now, rfl⟩
  · rw [heq]
    cases hcall with
    | left hrunning =>
      rw [hrunning]
      exact Nat.zero_le _
    | _ => exact Nat.le_refl _
  · cases hpump with
    | concluded _ => exact s.lifecycle.rank_le_conclude
    | _ => exact Nat.le_refl _
  · cases hworker <;> exact Nat.le_refl _
  · cases howner <;> exact Nat.le_refl _
  · exact Nat.le_refl _

theorem step_rank_le (hstep : s.step a = some s') : s.lifecycle.rank ≤ s'.lifecycle.rank :=
  step_of_move (P := fun s' => s.lifecycle.rank ≤ s'.lifecycle.rank) (fun _ => rfl) Move.rank_le
    hstep

theorem rank_pos_iff {l : Lifecycle} : 0 < l.rank ↔ l ≠ .running := by
  cases l <;> simp [Lifecycle.rank]

theorem acceptsWork_eq_false {l : Lifecycle} : l.acceptsWork = false ↔ l ≠ .running := by
  cases l <;> simp [Lifecycle.acceptsWork]

/-- A service that has stopped running stays stopped. -/
theorem step_stopped (hstep : s.step a = some s') (hs : s.lifecycle ≠ .running) :
    s'.lifecycle ≠ .running :=
  rank_pos_iff.mp (Nat.lt_of_lt_of_le (rank_pos_iff.mpr hs) (step_rank_le hstep))

theorem exec_stopped {actions : List (Action α)} (hs : s.lifecycle ≠ .running)
    (hrun : s.exec actions = some t) : t.lifecycle ≠ .running :=
  exec_keeps (P := fun s => s.lifecycle ≠ .running)
    (fun _ hs hstep => step_stopped hstep hs) hs hrun

theorem Winding.stopped_of_closed (h : Winding s) (hclosed : s.queue.closed = true) :
    s.lifecycle ≠ .running := by
  have hclosing := h.closing
  rw [hclosed, Bool.toNat_true] at hclosing
  refine acceptsWork_eq_false.mp ?_
  cases hlife : s.lifecycle.acceptsWork with
  | false => rfl
  | true =>
    rw [hlife, Bool.toNat_true] at hclosing
    omega

/-! ## Disposals -/

theorem firstStage_disposal {request : Request}
    (h : (s.firstStage request).2.isDisposal = true) : request = .dispose := by
  cases request with
  | dispose => rfl
  | scheduleSeries delay recurrence =>
    simp only [firstStage] at h
    split at h <;> cases h
  | submitAll count => cases count <;> cases h
  | _ => cases h

theorem stageStep_disposal {choice : Nat} (h : s.stageStep choice call = some (u, call')) :
    call'.isDisposal = call.isDisposal := by
  cases call with
  | _ stage =>
    obtain ⟨_, -, heq⟩ := Option.map_eq_some_iff.mp h
    cases heq
    rfl

theorem CallRefusal.isDisposal {reason : String} (h : CallRefusal s reason call u call') :
    call'.isDisposal = call.isDisposal := by
  cases h <;> rfl

/-- No call disposes of the service. -/
def NoDisposal (s : System α) : Prop :=
  ∀ (i : Nat) (call : Call α), s.calls[i]? = some call → call.isDisposal = false

theorem NoDisposal.step (h : NoDisposal s) (ha : a ≠ .begin .dispose)
    (hstep : s.step a = some s') : NoDisposal s' := by
  intro i call hcall
  rcases step_call hstep hcall with
    hold | ⟨request, rfl, rfl⟩ | ⟨_, before, u, -, hi, hstage, -⟩ |
    ⟨_, before, u, -, hi, hrefusal, -⟩
  · exact h i call hold
  · cases hdisposal : (s.firstStage request).2.isDisposal with
    | false => rfl
    | true => exact absurd (congrArg _ (firstStage_disposal hdisposal)) ha
  · rw [stageStep_disposal hstage]
    exact h i before hi
  · rw [hrefusal.isDisposal]
    exact h i before hi

/-- The delay queue is closed by a disposal. -/
theorem NoDisposal.not_closing (h : NoDisposal s) : s.owing (·.isClosing) = 0 := by
  refine List.countP_eq_zero.mpr fun call hcall hclosing => ?_
  obtain ⟨i, hi⟩ := List.mem_iff_getElem?.mp hcall
  have hnot := h i call hi
  cases call with
  | disposal stage => cases hnot
  | submission stage => cases stage <;> cases hclosing
  | withdrawal stage => cases stage <;> cases hclosing
  | retrieval stage => cases hclosing
  | batch stage =>
    cases stage with
    | submitting accepted current left => cases current <;> cases hclosing
    | cancelling error current left => cases current <;> cases hclosing
    | _ => cases hclosing

/-- As long as no call disposes of it, the service runs, if it ran before. -/
theorem Move.running (h : Move s a t) (hs : Winding s) (hrunning : s.lifecycle = .running)
    (hnot : t.owing (·.isClosing) = 0) : t.lifecycle = .running := by
  rcases h.kinds with ⟨u, _, _, hcall, howes, heq⟩ | hpump | hworker | howner | ⟨now, rfl⟩
  · rw [heq]
    cases hcall with
    | left _ =>
      have hcount := howes.count (·.isClosing) rfl
      rw [hnot] at hcount
      have hone : 0 + 0 = s.owing (·.isClosing) + 1 := hcount
      omega
    | _ => exact hrunning
  · cases hpump with
    | concluded hmarking =>
      have hdrained := hs.late (Over.late (.inl hmarking))
      exact absurd hrunning (hs.stopped_of_closed hdrained.closed)
    | _ => exact hrunning
  · cases hworker <;> exact hrunning
  · cases howner <;> exact hrunning
  · exact hrunning

/-- As long as no disposal has begun, the service runs. -/
theorem Reachable.exec_running {actions : List (Action α)} (h : Reachable s)
    (hrunning : s.lifecycle = .running) (hnot : NoDisposal s)
    (hactions : ∀ a ∈ actions, a ≠ .begin .dispose) (hrun : s.exec actions = some t) :
    t.lifecycle = .running := by
  have hkept : Reachable t ∧ t.lifecycle = .running ∧ NoDisposal t := by
    refine exec_keeps (P := fun s => Reachable s ∧ s.lifecycle = .running ∧ NoDisposal s) ?_
      ⟨h, hrunning, hnot⟩ hrun
    rintro s s' a ha ⟨h, hrunning, hnot⟩ hstep
    have hnot' := hnot.step (hactions a ha) hstep
    refine ⟨h.step a hstep, ?_, hnot'⟩
    have hlife : s'.owing (·.isClosing) = 0 → s'.lifecycle = .running :=
      step_of_move (P := fun s' => s'.owing (·.isClosing) = 0 → s'.lifecycle = .running)
        (fun _ => rfl) (fun hmove => hmove.running h.winding hrunning) hstep
    exact hlife hnot'.not_closing
  exact hkept.2.1

/-- What a service that runs has not closed. -/
theorem Winding.open_of_running (h : Winding s) (hrunning : s.lifecycle = .running) :
    s.queue.closed = false ∧ s.pool.closing = false := by
  have hopen : s.queue.closed ≠ true := fun hclosed => h.stopped_of_closed hclosed hrunning
  refine ⟨eq_false_of_ne_true hopen, eq_false_of_ne_true fun hclosing => ?_⟩
  exact hopen (h.late (.inr (.inl hclosing))).closed

/-! ## What callers are told -/

theorem execute_shutdown {p : Pool} {r : Ref} {choice : Nat}
    (h : (p.execute r choice).answer = .error .shutdown) : p.closing = true := by
  have hres := Pool.execute_result p r choice
  generalize p.execute r choice = e at hres h
  cases hres with
  | closed hclosing => exact hclosing
  | _ => cases h

/-- The pool refuses to start workers ahead of demand because it is closed, or for want of a
thread. -/
theorem prestartFrom_refused {requested started left : Nat} {p : Pool} {error : PoolError}
    (h : (Pool.prestartFrom requested p started left).answer = .error error) :
    error ≠ .shutdown := by
  induction left generalizing p started with
  | zero => cases h
  | succ left ih =>
    rw [Pool.prestartFrom] at h
    split at h
    next =>
      have hstart := Pool.startWorker_result p
      generalize p.startWorker = e at hstart h
      cases hstart with
      | started events _ _ => exact ih h
      | refused reason _ =>
        simp only at h
        split at h
        next =>
          cases h
          nofun
        next => cases h
      | unwound failure _ _ => cases h
    next => cases h

theorem prestart_shutdown {p : Pool} {count : Nat}
    (h : (p.prestart count).answer = .error .shutdown) : p.closing = true := by
  unfold Pool.prestart at h
  split at h
  next hclosing => exact hclosing
  next => exact absurd rfl (prestartFrom_refused h)

/-- A submission is turned away only by a service that has stopped running. -/
theorem submissionStep_explaining {choice : Nat} {stage : Submission} {r : Option Ref}
    (hs : Winding s) (h : s.submissionStep choice stage = some (u, .explaining r)) :
    s.lifecycle ≠ .running := by
  cases stage with
  | arriving =>
    rw [submissionStep] at h
    split at h
    next => cases h
    next hnot => exact acceptsWork_eq_false.mp (eq_false_of_ne_true hnot)
  | checking r' kind =>
    rw [submissionStep] at h
    split at h
    next => cases h
    next hnot => exact acceptsWork_eq_false.mp (eq_false_of_ne_true hnot)
  | executing r' =>
    unfold submissionStep execute at h
    simp only at h
    split at h
    case h_2 heq =>
      have hclosing := execute_shutdown (Prod.mk.inj heq).2
      exact hs.stopped_of_closed (hs.late (.inr (.inl hclosing))).closed
    all_goals cases h
  | offering r' kind =>
    rw [submissionStep, offer] at h
    cases hoffer : s.queue.offer (s.isPending r') (s.key r') r' with
    | none =>
      unfold DelayQueue.offer at hoffer
      split at hoffer
      next hclosed => exact hs.stopped_of_closed hclosed
      next => cases hoffer
    | some offered =>
      obtain ⟨queue, needsPump⟩ := offered
      rw [hoffer] at h
      cases needsPump <;> cases h
  | startingPump r' kind k =>
    rw [submissionStep] at h
    split at h
    · cases h
    · split at h <;> cases h
  | _ => cases h

/-- A submission is told the state of the service, or an error of another kind. -/
theorem submissionStep_failed {choice : Nat} {stage : Submission} {r : Option Ref} {name : String}
    {l : Lifecycle} (h : s.submissionStep choice stage = some (u, .failed r (.rejected name l))) :
    (∃ r', stage = .explaining r') ∧ name = s.name ∧ l = s.lifecycle := by
  cases stage with
  | explaining r' =>
    cases h
    exact ⟨⟨_, rfl⟩, rfl, rfl⟩
  | arriving =>
    rw [submissionStep] at h
    split at h <;> cases h
  | checking r' kind =>
    rw [submissionStep] at h
    split at h <;> cases h
  | executing r' =>
    unfold submissionStep execute at h
    simp only at h
    split at h <;> cases h
  | offering r' kind =>
    rw [submissionStep, offer] at h
    cases hoffer : s.queue.offer (s.isPending r') (s.key r') r' with
    | none =>
      rw [hoffer] at h
      cases h
    | some offered =>
      obtain ⟨queue, needsPump⟩ := offered
      rw [hoffer] at h
      cases needsPump <;> cases h
  | startingPump r' kind k =>
    rw [submissionStep] at h
    split at h
    · cases h
    · split at h <;> cases h
  | _ => cases h

/-- A call that is at the end of a submission has just carried out a section of it, and a call that
fails has had a submission that failed. -/
theorem stageStep_told {choice : Nat} (h : s.stageStep choice call = some (u, call')) :
    (∀ r, call'.submission? = some (.explaining r) → ∃ stage v,
      call.submission? = some stage ∧ s.submissionStep choice stage = some (v, .explaining r)) ∧
    (∀ error, call'.error? = some error → call.error? = some error ∨ ∃ stage v r,
      call.submission? = some stage ∧
        s.submissionStep choice stage = some (v, .failed r error)) := by
  cases call with
  | submission stage =>
    obtain ⟨⟨v, stage'⟩, hv, heq⟩ := Option.map_eq_some_iff.mp h
    cases heq
    refine ⟨fun r hr => ⟨stage, v, rfl, ?_⟩, fun error herror => .inr ?_⟩
    · rw [hv, Option.some.inj hr]
    · cases stage' with
      | failed r error' =>
        cases herror
        exact ⟨stage, v, r, rfl, hv⟩
      | _ => cases herror
  | batch stage =>
    obtain ⟨⟨v, stage'⟩, hv, heq⟩ := Option.map_eq_some_iff.mp h
    cases heq
    cases stage with
    | submitting accepted current left =>
      obtain ⟨⟨w, next⟩, hw, heq⟩ := Option.map_eq_some_iff.mp hv
      cases heq
      refine ⟨fun r hr => ⟨current, u, rfl, ?_⟩, fun error herror => .inr ⟨current, u, ?_⟩⟩
      · cases next with
        | explaining r' =>
          cases hr
          exact hw
        | accepted r' => cases left <;> cases hr
        | failed r' error' => cases accepted <;> cases hr
        | _ => cases hr
      · cases next with
        | failed r' error' =>
          cases accepted <;> cases herror <;> exact ⟨r', rfl, hw⟩
        | accepted r' => cases left <;> cases herror
        | _ => cases herror
    | cancelling error' current left =>
      obtain ⟨⟨w, next⟩, hw, heq⟩ := Option.map_eq_some_iff.mp hv
      refine ⟨fun r hr => ?_, fun error herror => .inl ?_⟩
      · cases next <;> cases left <;> cases heq <;> cases hr
      · cases next <;> cases left <;> cases heq <;> exact herror
    | collecting outcomes left =>
      cases left with
      | nil =>
        cases hv
        exact ⟨by rintro _ ⟨⟩, by rintro _ ⟨⟩⟩
      | cons r rest =>
        simp only [batchStep] at hv
        split at hv <;> cases hv
        exact ⟨by rintro _ ⟨⟩, by rintro _ ⟨⟩⟩
    | _ => cases hv
  | _ =>
    obtain ⟨_, -, heq⟩ := Option.map_eq_some_iff.mp h
    cases heq
    exact ⟨by rintro _ ⟨⟩, by rintro _ ⟨⟩⟩

/-- A call does not begin at the end of a submission, nor with a refusal. -/
theorem firstStage_told {request : Request} :
    (∀ r, (s.firstStage request).2.submission? ≠ some (.explaining r)) ∧
      ∀ name l, (s.firstStage request).2.error? ≠ some (.rejected name l) := by
  cases request with
  | scheduleSeries delay recurrence =>
    simp only [firstStage]
    split <;> exact ⟨by rintro _ ⟨⟩, by rintro _ _ ⟨⟩⟩
  | submitAll count => cases count <;> exact ⟨by rintro _ ⟨⟩, by rintro _ _ ⟨⟩⟩
  | _ => exact ⟨by rintro _ ⟨⟩, by rintro _ _ ⟨⟩⟩

theorem CallRefusal.told {reason : String} (h : CallRefusal s reason call u call') :
    (∀ r, call'.submission? ≠ some (.explaining r)) ∧ call'.error? = none := by
  cases h <;> exact ⟨by rintro _ ⟨⟩, rfl⟩

/-- A caller is told the state of the service only after the service has stopped running. -/
structure Informed (s : System α) : Prop where
  stopped : ∀ {i : Nat} {call : Call α} {r}, s.calls[i]? = some call →
    call.submission? = some (.explaining r) → s.lifecycle ≠ .running
  told : ∀ {i : Nat} {call : Call α} {name l}, s.calls[i]? = some call →
    call.error? = some (.rejected name l) → name = s.name ∧ l ≠ .running

theorem Informed.step (h : Informed s) (hs : Winding s) (hstep : s.step a = some s') :
    Informed s' where
  stopped := by
    intro i call r hcall hr
    refine step_stopped hstep ?_
    rcases step_call hstep hcall with
      hold | ⟨request, -, rfl⟩ | ⟨_, before, u, -, hi, hstage, -⟩ | ⟨_, _, _, -, -, hrefusal, -⟩
    · exact h.stopped hold hr
    · exact absurd hr (firstStage_told.1 r)
    · obtain ⟨stage, v, -, hv⟩ := (stageStep_told hstage).1 r hr
      exact submissionStep_explaining hs hv
    · exact absurd hr (hrefusal.told.1 r)
  told := by
    intro i call name l hcall herror
    rw [step_name hstep]
    rcases step_call hstep hcall with
      hold | ⟨request, -, rfl⟩ | ⟨_, before, u, -, hi, hstage, -⟩ | ⟨_, _, _, -, -, hrefusal, -⟩
    · exact h.told hold herror
    · exact absurd herror (firstStage_told.2 name l)
    · rcases (stageStep_told hstage).2 _ herror with hbefore | ⟨stage, v, r, hat, hv⟩
      · exact h.told hi hbefore
      · obtain ⟨⟨r', rfl⟩, hname, hl⟩ := submissionStep_failed hv
        exact ⟨hname, hl ▸ h.stopped hi hat⟩
    · rw [hrefusal.told.2] at herror
      cases herror

theorem Reachable.informed (h : Reachable s) : Informed s := by
  induction h with
  | initial host name config clockEnd now => exact ⟨nofun, nofun⟩
  | step a hs hstep ih => exact ih.step hs.winding hstep

/-! ## Submissions that come too late -/

theorem submissionStep_turnedAway {stage : Submission} {n : Nat} (hs : s.lifecycle ≠ .running)
    (hleft : stage.sectionsLeft? = some (n + 1)) (choice : Nat) :
    ∃ stage', s.submissionStep choice stage = some (s, stage') ∧
      stage'.sectionsLeft? = some n ∧ ∀ r, stage' ≠ .accepted r := by
  have hrefuses := acceptsWork_eq_false.mpr hs
  cases stage with
  | arriving =>
    cases hleft
    exact ⟨.explaining none, by rw [submissionStep, hrefuses]; rfl, rfl, by rintro _ ⟨⟩⟩
  | checking r kind =>
    cases hleft
    exact ⟨.explaining (some r), by rw [submissionStep, hrefuses]; rfl, rfl, by rintro _ ⟨⟩⟩
  | explaining r =>
    cases hleft
    exact ⟨.failed r s.rejection, rfl, rfl, by rintro _ ⟨⟩⟩
  | failed r error => cases error <;> cases hleft
  | _ => cases hleft

/-- A call that is turned away always has its next section to carry out, until none is left. -/
theorem stageStep_turnedAway {n : Nat} (hs : s.lifecycle ≠ .running)
    (hleft : call.sectionsLeft? = some (n + 1)) (choice : Nat) :
    ∃ u call', s.stageStep choice call = some (u, call') ∧ call'.sectionsLeft? = some n := by
  cases call with
  | submission stage =>
    obtain ⟨stage', hstep, hleft', -⟩ := submissionStep_turnedAway hs hleft choice
    exact ⟨_, .submission stage', by rw [stageStep, hstep]; rfl, hleft'⟩
  | batch stage =>
    cases stage with
    | submitting accepted current left =>
      cases accepted with
      | cons r rest => cases hleft
      | nil =>
        obtain ⟨stage', hstep, hleft', hnot⟩ := submissionStep_turnedAway hs hleft choice
        refine ⟨s, .batch (batchNext [] left stage'), by rw [stageStep, batchStep, hstep]; rfl, ?_⟩
        cases stage' with
        | accepted r => exact absurd rfl (hnot r)
        | failed r error => cases error <;> exact hleft'
        | explaining r => exact hleft'
        | arriving | checking _ _ => exact hleft'
        | _ => cases hleft'
    | failed error => cases error <;> cases hleft
    | _ => cases hleft
  | _ => cases hleft

theorem stageStep_turnedAway_end (hleft : call.sectionsLeft? = some 0) (choice : Nat) :
    s.stageStep choice call = none := by
  have hend : ∀ {stage : Submission}, stage.sectionsLeft? = some 0 →
      s.submissionStep choice stage = none := by
    intro stage hstage
    cases stage with
    | failed r error => rfl
    | _ => cases hstage
  cases call with
  | submission stage => rw [stageStep, hend hleft]; rfl
  | batch stage =>
    cases stage with
    | submitting accepted current left =>
      cases accepted with
      | nil => rw [stageStep, batchStep, hend hleft]; rfl
      | cons r rest => cases hleft
    | failed error => rfl
    | _ => cases hleft
  | _ => cases hleft

/-- A call that is turned away has failed when no section is left to it. -/
theorem error_of_turnedAway (hleft : call.sectionsLeft? = some 0) :
    ∃ error, call.error? = some error ∧ error.isRefusal = true := by
  have hend : ∀ {stage : Submission}, stage.sectionsLeft? = some 0 →
      ∃ error, stage.error? = some error ∧ error.isRefusal = true := by
    intro stage hstage
    cases stage with
    | failed r error => cases error <;> first | exact ⟨_, rfl, rfl⟩ | cases hstage
    | _ => cases hstage
  cases call with
  | submission stage => exact hend hleft
  | batch stage =>
    cases stage with
    | submitting accepted current left =>
      cases accepted with
      | nil => exact hend hleft
      | cons r rest => cases hleft
    | failed error => cases error <;> first | exact ⟨_, rfl, rfl⟩ | cases hleft
    | _ => cases hleft
  | _ => cases hleft

/-- The call is turned away and has so many sections left. -/
def TurnedAway (s : System α) (i left : Nat) : Prop :=
  ∃ call, s.calls[i]? = some call ∧ call.sectionsLeft? = some left

theorem firstStage_turnedAway {request : Request} (h : request.submits = true) :
    (s.firstStage request).2.sectionsLeft? = some 2 := by
  cases request with
  | submit | schedule _ => rfl
  | scheduleSeries delay recurrence =>
    have hvalid : hasZeroPeriod recurrence = false := Bool.not_eq_true' _ ▸ h
    rw [firstStage, hvalid]
    rfl
  | submitAll count =>
    cases count with
    | zero => cases h
    | succ n => rfl
  | _ => cases h

theorem begin_turnedAway {request : Request} (h : request.submits = true)
    (hstep : s.step (.begin request) = some s') : TurnedAway s' s.calls.length 2 := by
  rcases step_calls hstep with
    ⟨-, hnot, -⟩ | ⟨request', heq, hbegun⟩ | ⟨_, _, _, _, _, heq, -⟩ | ⟨_, _, _, _, _, heq, -⟩
  · exact absurd rfl (hnot request)
  · cases heq
    refine ⟨(s.firstStage request).2, ?_, firstStage_turnedAway h⟩
    rw [hbegun, List.getElem?_append_right (Nat.le_refl _), Nat.sub_self]
    rfl
  · cases heq
  · cases heq

/-- One step takes one section off a call that is turned away, if it is a step of this call. -/
theorem step_turnedAway {left : Nat} (hs : s.lifecycle ≠ .running) (h : TurnedAway s i left)
    (hstep : s.step a = some s') :
    ∃ left', TurnedAway s' i left' ∧ left' + (a.goesOn i).toNat = left := by
  obtain ⟨call, hcall, hleft⟩ := h
  have hlt := (List.getElem?_eq_some_iff.mp hcall).1
  rcases step_calls hstep with
    ⟨hsame, -, hnot, -⟩ | ⟨request, rfl, hbegun⟩ |
      ⟨j, choice, call₁, u, call', rfl, hj, hstage, rfl⟩ |
      ⟨j, reason, call₁, u, call', rfl, hj, hrefusal, rfl⟩
  · refine ⟨left, ⟨call, hsame ▸ hcall, hleft⟩, ?_⟩
    cases a with
    | call j choice => exact absurd rfl (hnot j choice)
    | _ => rfl
  · refine ⟨left, ⟨call, ?_, hleft⟩, rfl⟩
    rw [hbegun, List.getElem?_append_left hlt]
    exact hcall
  · by_cases hi : j = i
    · subst hi
      obtain rfl : call = call₁ := Option.some.inj (hcall.symm.trans hj)
      cases left with
      | zero =>
        rw [stageStep_turnedAway_end hleft] at hstage
        cases hstage
      | succ n =>
        obtain ⟨u', call'', hstep', hleft'⟩ := stageStep_turnedAway hs hleft choice
        rw [hstage] at hstep'
        cases hstep'
        refine ⟨n, ⟨call', List.getElem?_set_self hlt, hleft'⟩, ?_⟩
        rw [Action.goesOn, beq_self_eq_true, Bool.toNat_true]
    · refine ⟨left, ⟨call, ?_, hleft⟩, ?_⟩
      · exact (List.getElem?_set_ne hi).trans hcall
      · rw [Action.goesOn, beq_false_of_ne hi]
        rfl
  · -- A call that is turned away has no pump to start.
    by_cases hi : j = i
    · subst hi
      obtain rfl : call = call₁ := Option.some.inj (hcall.symm.trans hj)
      cases hrefusal <;> cases hleft
    · exact ⟨left, ⟨call, (List.getElem?_set_ne hi).trans hcall, hleft⟩, rfl⟩

/-- Over a run, a call that is turned away has carried out as many sections as are not left. -/
theorem exec_turnedAway {left : Nat} {later : List (Action α)} (hs : s.lifecycle ≠ .running)
    (h : TurnedAway s i left) (hrun : s.exec later = some t) :
    ∃ left', TurnedAway t i left' ∧ left' + later.countP (·.goesOn i) = left := by
  induction later generalizing s left with
  | nil =>
    cases hrun
    exact ⟨left, h, rfl⟩
  | cons a rest ih =>
    obtain ⟨s', hstep, hrest⟩ := exec_cons hrun
    obtain ⟨left₁, h₁, hone⟩ := step_turnedAway hs h hstep
    obtain ⟨left', h', hmore⟩ := ih (step_stopped hstep hs) h₁ hrest
    refine ⟨left', h', ?_⟩
    rw [List.countP_cons]
    cases hgoes : a.goesOn i <;> rw [hgoes] at hone <;> simp at hone ⊢ <;> omega

/-! ## Runs -/

/-- At every moment of every run of a service, whatever the clients, the pump and the workers have
done. The core size and the factory are changed only by the two actions of the owner that are there
for it. As long as no disposal has begun the service runs, its delay queue is open and its pool is
not closing. The delay queue is closed after the service has stopped running, the pool after the
delay queue is closed and empty, and the service is terminated after that; it never goes back. A
valid submission that is begun after the service has stopped running always comes to its end, with
the second section of its call, and is rejected. And nobody is told of a rejection by a service that
runs. -/
theorem only_disposal_stops_service (host : Host) (name : String) (config : ServiceConfig)
    (clockEnd now : Instant) {actions : List (Action α)}
    (hrun : (System.initial host name config clockEnd now).exec actions = some s) :
    (∀ a t, s.step a = some t →
      ((∀ size, a ≠ .setCoreSize size) → t.pool.coreSize = s.pool.coreSize) ∧
      ((∀ factory, a ≠ .setFactory factory) →
        t.pool.factory.start = s.pool.factory.start) ∧
      s.lifecycle.rank ≤ t.lifecycle.rank) ∧
    ((∀ a ∈ actions, a ≠ .begin .dispose) →
      s.lifecycle = .running ∧ s.queue.closed = false ∧ s.pool.closing = false) ∧
    (s.queue.closed = true → s.lifecycle ≠ .running) ∧
    (s.pool.closing = true → s.queue.closed = true ∧ s.queue.entries = []) ∧
    (s.lifecycle = .terminated → s.pool.closing = true) ∧
    (s.lifecycle ≠ .running → ∀ request t, request.submits = true →
      s.step (.begin request) = some t → ∀ later u, t.exec later = some u →
        ∃ call left, u.calls[s.calls.length]? = some call ∧ call.sectionsLeft? = some left ∧
          left + later.countP (·.goesOn s.calls.length) = 2 ∧
          (0 < left → ∀ choice, (u.step (.call s.calls.length choice)).isSome = true) ∧
          (left = 0 → ∃ l, call.error? = some (.rejected s.name l) ∧ l ≠ .running)) ∧
    (∀ call ∈ s.calls, ∀ name l, call.error? = some (.rejected name l) → l ≠ .running) ∧
    (∀ count error, (s.prestart count).2 = .error error → ∀ later t, s.exec later = some t →
      ∀ name l, t.poolRefusal error = .rejected name l → l ≠ .running) := by
  have hstart : Reachable (System.initial host name config clockEnd now : System α) :=
    .initial host name config clockEnd now
  have hs := hstart.exec hrun
  have hwinding := hs.winding
  refine ⟨fun a t hstep => ?_, fun hactions => ?_, hwinding.stopped_of_closed, fun hclosing => ?_,
    fun hlife => ?_, ?_, fun call hcall name' l herror => ?_, ?_⟩
  · have hsetup : _ ∧ _ := step_of_move (P := fun t =>
      ((∀ size, a ≠ .setCoreSize size) → t.pool.coreSize = s.pool.coreSize) ∧
        ((∀ factory, a ≠ .setFactory factory) →
          t.pool.factory.start = s.pool.factory.start)) (fun _ => rfl) Move.setup hstep
    exact ⟨hsetup.1, hsetup.2, step_rank_le hstep⟩
  · have hrunning := hstart.exec_running rfl nofun hactions hrun
    exact ⟨hrunning, hwinding.open_of_running hrunning⟩
  · have hdrained := hwinding.late (.inr (.inl hclosing))
    exact ⟨hdrained.closed, hdrained.entries⟩
  · exact (Pool.hasDrained_iff.mp (hwinding.ended (.inr hlife))).1
  · intro hstopped request t hrequest hstep later u hlater
    have ht := hs.step _ hstep
    have hu := ht.exec hlater
    have hstopped' := exec_stopped (step_stopped hstep hstopped) hlater
    obtain ⟨left, ⟨call, hcall, hleft⟩, hcount⟩ :=
      exec_turnedAway (step_stopped hstep hstopped) (begin_turnedAway hrequest hstep) hlater
    refine ⟨call, left, hcall, hleft, hcount, fun hpos choice => ?_, fun hzero => ?_⟩
    · obtain ⟨n, rfl⟩ : ∃ n, left = n + 1 := ⟨left - 1, by omega⟩
      obtain ⟨v, call', hstage, -⟩ := stageStep_turnedAway hstopped' hleft choice
      show (u.callStep s.calls.length choice).isSome = true
      rw [callStep, hcall, Option.bind_some, hstage]
      rfl
    · obtain ⟨error, herror, hrefusal⟩ := error_of_turnedAway (hzero ▸ hleft)
      obtain ⟨name', l, rfl⟩ := ServiceError.isRefusal_iff.mp hrefusal
      obtain ⟨hname, hl⟩ := hu.informed.told hcall herror
      have hsame : u.name = s.name := (exec_name hlater).trans (step_name hstep)
      exact ⟨l, by rw [herror, hname, hsame], hl⟩
  · obtain ⟨i, hi⟩ := List.mem_iff_getElem?.mp hcall
    exact (hs.informed.told hi herror).2
  · intro count error hrefused later t hlater name' l hrefusal
    cases error with
    | spawn reason => cases hrefusal
    | shutdown =>
      cases hrefusal
      have hclosing : s.pool.closing = true := prestart_shutdown hrefused
      have hstopped := hwinding.stopped_of_closed (hwinding.late (.inr (.inl hclosing))).closed
      exact exec_stopped hstopped hlater

/-- A submission that is begun while the service shuts down is told so. -/
theorem late_submission_is_rejected :
    ∃ s t u : System Unit, (System.initial .lenient "service" (.ofProcessors 1) 100 0).exec
        [.begin .dispose, .call 0 0] = some s ∧
      s.lifecycle = .shuttingDown ∧ s.queue.closed = false ∧
      s.step (.begin .submit) = some t ∧ t.exec [.call 1 0, .call 1 0] = some u ∧
      ∃ call l, u.calls[1]? = some call ∧ call.error? = some (.rejected "service" l) ∧
        l ≠ .running := by
  obtain ⟨-, -, -, -, -, hlate, -⟩ := @only_disposal_stops_service Unit _ .lenient "service"
    (.ofProcessors 1) 100 0 [.begin .dispose, .call 0 0] rfl
  obtain ⟨call, left, hcall, -, hcount, -, hend⟩ :=
    hlate nofun .submit _ rfl rfl [.call 1 0, .call 1 0] _ rfl
  have hnone : left = 0 := Nat.add_right_cancel hcount
  obtain ⟨l, herror, hl⟩ := hend hnone
  exact ⟨_, _, _, rfl, rfl, rfl, rfl, rfl, call, l, hcall, herror, hl⟩

end System

end TaskScheduler
