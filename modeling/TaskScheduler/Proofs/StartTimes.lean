import TaskScheduler.Proofs.Punctual

/-
  No body starts before its time.

  A record that runs once starts when it has been released, and that is not before its trigger
  unless the delay queue is closed (`Unreleased.exec`). For a task that repeats the trigger is what
  it is released by, run after run (`Timely`), and the trigger only ever grows: a run that ends well
  moves it by a period from where it was, or from the end of the run, and putting it off moves it to
  a later instant (`Timely.trigger_le`). At a fixed rate it is a period further for every run that
  has been started, but for the one that goes on (`Timely.exec_rate`).

  `no_task_starts_early` puts this together. Hand-offs may fail and be repeated, the pool may be
  resized, and the service may drain. But a task whose hand-off panics may be held twice, and then
  it is run too early (`task_held_twice_starts_early`).
-/
namespace TaskScheduler

theorem Recurrence.le_nextRun {last previous completed : Instant} (recurrence : Recurrence)
    (h : previous ≤ completed) : previous ≤ recurrence.nextRun last previous completed := by
  cases recurrence with
  | once => exact Int.le_refl _
  | fixedRate period => exact le_deadline ..
  | fixedDelay period => exact Int.le_trans h (le_deadline ..)

/-- A run that does not end well, of a record that does not wait, is the last one. -/
theorem Record.complete_final {α : Type} {a : Record α} {result : Except Failure α}
    (hstate : a.state ≠ .pending) (hnot : (result.isOk && a.state == .running) = false)
    (last now : Instant) : (a.complete last now (.ofExcept result)).1.isFinal = true := by
  unfold complete
  cases hcase : a.state with
  | pending => exact absurd hcase hstate
  | running =>
    cases result with
    | error failure => rfl
    | ok value =>
      rw [hcase] at hnot
      cases hnot
  | _ => exact congrArg RecordState.isFinal hcase

/-- The worker is inside the body of the record. -/
def WorkerPhase.isRunning (r : Ref) : WorkerPhase → Bool
  | running r' => r' == r
  | _ => false

namespace System

variable {α : Type} {s s' t u : System α} {a b : Action α} {r : Ref} {x y : Record α} {i : Nat}
  {period : Duration}

/-- The body of the record returns or panics. -/
def endsBody (r : Ref) (s : System α) (a : Action α) (_ : System α) : Bool :=
  match a with
  | .bodyEnds i _ => (s.pool.phase? i).any (·.isRunning r)
  | _ => false

/-- The number of workers that are inside the body of a record. -/
def running (s : System α) (r : Ref) : Nat := s.pool.tally (·.isRunning r)

/-- The clock goes on for longer than any delay that is honoured. -/
def InReach (s : System α) : Prop := s.now + maxDelay.nanos ≤ s.clockEnd

/-! ## Runs that go on -/

theorem bodies_eq (s : System α) (r : Ref) : s.bodies r = s.entering r + s.running r := by
  refine Pool.tally_eq_add (fun phase => ?_) s.pool
  have hbegun : ∀ r' : Ref, (WorkerPhase.begun r' == .begun r) = (some r' == some r) := by
    intro r'
    by_cases h : r' = r
    · rw [h, beq_self_eq_true, beq_self_eq_true]
    · rw [beq_false_of_ne fun heq => h (WorkerPhase.begun.inj heq),
        beq_false_of_ne fun heq => h (Option.some.inj heq)]
  cases phase with
  | begun r' => exact congrArg Bool.toNat (hbegun r').symm
  | running r' => exact (Nat.zero_add _).symm
  | _ => rfl

theorem WorkerMove.running_balance (h : WorkerMove s a t) (r : Ref) :
    t.running r + (endsBody r s a t).toNat = s.running r + (startsBody r s a t).toNat := by
  have hgoes : ∀ {i : Nat} {old new : WorkerPhase}, s.pool.phase? i = some old →
      t.pool = s.pool.setPhase i new → (endsBody r s a t) = old.isRunning r →
      (startsBody r s a t) = new.isRunning r →
      t.running r + (endsBody r s a t).toNat = s.running r + (startsBody r s a t).toNat := by
    intro i old new hphase hpool hends hstarts
    rw [System.running, hpool, hends, hstarts]
    exact Pool.tally_setPhase hphase new _
  have hends : ∀ {i : Nat} {r' : Ref} {result : Except Failure α},
      s.pool.phase? i = some (.running r') → a = .bodyEnds i result →
      endsBody r s a t = (WorkerPhase.running r').isRunning r := by
    rintro i r' result hphase rfl
    rw [endsBody, hphase]
    rfl
  cases h with
  | looked hlook =>
    obtain ⟨old, hphase, hback, -⟩ := Pool.look_result hlook
    obtain ⟨old', new, hback', htally, hnew⟩ := Pool.look_tally hlook
    have hold : old ≠ .begun r := by
      rintro rfl
      cases hback
    have hbefore : old'.isRunning r = false := by cases old' <;> first | rfl | cases hback'
    have hafter : new.isRunning r = false := by
      rcases hnew with ⟨-, rfl | rfl⟩ | ⟨r', -, rfl⟩ <;> rfl
    have hbalance := htally (·.isRunning r)
    rw [hbefore, hafter] at hbalance
    rw [startsBody_other hphase hold]
    exact hbalance
  | expired hexpire => exact (Pool.expire_tally hexpire).2 (·.isRunning r) rfl rfl
  | counted hcount =>
    obtain ⟨r', hphase, -⟩ := Pool.countRun_eq_some hcount
    rw [startsBody_other hphase (by rintro ⟨⟩)]
    exact (Pool.countRun_tally hcount).2 (·.isRunning r) (fun _ => rfl) rfl
  | @entered i r' hphase hbody =>
    refine hgoes hphase rfl rfl ?_
    by_cases hr : r' = r
    · subst hr
      rw [startsBody, hphase, hbody, beq_self_eq_true]
      exact (beq_self_eq_true r').symm
    · rw [startsBody_other hphase fun heq => hr (WorkerPhase.begun.inj heq)]
      exact (beq_false_of_ne hr).symm
  | @spent i r' hphase hbody =>
    refine hgoes hphase rfl rfl ?_
    by_cases hr : r' = r
    · rw [startsBody, ← hr, hbody]
      exact Bool.and_false _
    · exact startsBody_other hphase fun heq => hr (WorkerPhase.begun.inj heq)
  | finished hphase _ => exact hgoes hphase rfl (hends hphase rfl) rfl
  | rescheduled hphase _ _ => exact hgoes hphase rfl (hends hphase rfl) rfl
  | @requeued i r' queue needsPump hphase _ =>
    refine hgoes hphase rfl rfl ((startsBody_other hphase (by rintro ⟨⟩)).trans ?_)
    cases needsPump <;> rfl
  | began hphase _ _ => exact hgoes hphase rfl rfl (startsBody_other hphase (by rintro ⟨⟩))
  | passedOver hphase _ => exact hgoes hphase rfl rfl (startsBody_other hphase (by rintro ⟨⟩))
  | refused hphase _ => exact hgoes hphase rfl rfl (startsBody_other hphase (by rintro ⟨⟩))
  | gaveUp hphase => exact hgoes hphase rfl rfl (startsBody_other hphase (by rintro ⟨⟩))
  | launched hphase _ _ => exact hgoes hphase rfl rfl (startsBody_other hphase (by rintro ⟨⟩))
  | unlaunched hphase _ _ => exact hgoes hphase rfl rfl rfl
  | retracted hphase => exact hgoes hphase rfl rfl (startsBody_other hphase (by rintro ⟨⟩))
  | rejected hphase => exact hgoes hphase rfl rfl (startsBody_other hphase (by rintro ⟨⟩))

/-- Every body that is started runs until it ends. -/
theorem Move.running_balance (h : Move s a t) (r : Ref) :
    t.running r + (endsBody r s a t).toNat = s.running r + (startsBody r s a t).toNat := by
  have hcalm : ∀ {v : System α}, CallsPool s v → v.running r = s.running r :=
    fun hcalls => hcalls.calm _ rfl rfl rfl
  cases h with
  | begun hmove => exact hcalm hmove.callsPool
  | called _ hmove | callRefused _ hmove => exact hcalm hmove.callsPool
  | pumped hmove | pumpIdled hmove | pumpFaulted hmove => exact hcalm hmove.callsPool
  | worked hmove => exact hmove.running_balance r
  | resized size => exact hcalm (OwnerMove.resized size).callsPool
  | prestarted count => exact hcalm (OwnerMove.prestarted count).callsPool
  | refactored factory => exact hcalm (OwnerMove.refactored factory).callsPool
  | timePassed time => rfl
  | declined hdeclined => rcases hdeclined with rfl | ⟨operation, rfl⟩ <;> rfl

theorem step_running (hstep : s.step a = some s') (r : Ref) :
    s'.running r + (endsBody r s a s').toNat = s.running r + (startsBody r s a s').toNat :=
  step_of_move (P := fun s' => s'.running r + (endsBody r s a s').toNat =
    s.running r + (startsBody r s a s').toNat) (fun _ => rfl)
    (fun hmove => hmove.running_balance r) hstep

/-- A run that has not ended well was the last one. -/
theorem Reachable.ended_of_endsBody (hs : Reachable s) (hstep : s.step a = some s')
    (hends : endsBody r s a s' = true) (hnot : endsWell r s a s' = false) : Ended s' r := by
  refine .inl (step_of_move (P := fun s' => s'.isFinal r = true ∧ s'.bodies r = 0)
    (fun _ => rfl) (fun {t} hmove => ?_) hstep)
  cases a with
  | bodyEnds i result =>
    obtain ⟨phase, hphase, hrunning⟩ := (Option.any_eq_true _ _).mp hends
    obtain rfl : phase = .running r := by
      cases phase <;> first | exact congrArg _ (eq_of_beq hrunning) | cases hrunning
    have hatt := hs.attended r
    obtain ⟨x, hx, hstate⟩ := hatt.record hphase rfl
    have hleaves : ∀ {new : WorkerPhase}, t.pool = s.pool.setPhase i new → new.body? = none →
        t.records = s.records.modify r (fun record =>
          (record.complete s.clockEnd s.now (.ofExcept result)).1) →
        t.isFinal r = true ∧ t.bodies r = 0 := by
      intro new hpool hnew hrecords
      have hbodies := bodies_setPhase hphase hpool r
      have hone := hatt.one
      have hbody : ((WorkerPhase.running r).body? == some r) = true := beq_self_eq_true (some r)
      rw [hnew, hbody, Bool.toNat_true] at hbodies
      have hnone : ((none : Option Ref) == some r).toNat = 0 := rfl
      have hafter : t.record? r = some (x.complete s.clockEnd s.now (.ofExcept result)).1 := by
        rw [record?_of_modify hrecords, if_pos rfl, hx, Option.map_some]
      refine ⟨?_, by omega⟩
      rw [endsWell, hphase, beq_self_eq_true, Bool.true_and, state?, hx] at hnot
      rw [isFinal, state?, hafter]
      exact Record.complete_final hstate hnot _ _
    cases hmove with
    | worked hworker =>
      cases hworker with
      | finished hphase' _ =>
        cases hphase.symm.trans hphase'
        exact hleaves rfl rfl rfl
      | rescheduled hphase' _ _ =>
        cases hphase.symm.trans hphase'
        exact hleaves rfl rfl rfl
    | declined hdeclined => rcases hdeclined with heq | ⟨operation, heq⟩ <;> cases heq
  | _ => cases hends

theorem endsBody_of_endsWell (h : endsWell r s a t = true) : endsBody r s a t = true := by
  cases a with
  | bodyEnds i result =>
    rw [endsWell, Bool.and_eq_true] at h
    rw [endsBody, eq_of_beq h.1]
    exact beq_self_eq_true r
  | _ => cases h

theorem taken_of_endsBody (h : endsBody r s a t = true) : 0 < s.pool.tally (·.hasTaken r) := by
  cases a with
  | bodyEnds i result =>
    obtain ⟨phase, hphase, hrunning⟩ := (Option.any_eq_true _ _).mp h
    refine Pool.tally_pos hphase ?_
    cases phase <;> first | exact hrunning | cases hrunning
  | _ => cases h

/-! ## The trigger of a task that repeats -/

theorem OnTime.trigger_le (h : OnTime s r) (hx : s.record? r = some x) (hreleased : s.Released r) :
    x.trigger ≤ s.now := by
  have hdue := h.due hreleased
  rw [key_of_record hx] at hdue
  exact hdue

/-- The trigger only ever grows. -/
theorem Timely.trigger_le (h : Timely s r) (hstep : s.step a = some s')
    (hx : s.record? r = some x) (hy : s'.record? r = some y) : x.trigger ≤ y.trigger := by
  cases hpost : postpones r s a s' with
  | true =>
    obtain ⟨backoff, hpump, hafter⟩ := step_postpones hstep hpost hx
    cases hy.symm.trans hafter
    have htaken : s.pump.any (·.hasTaken r) = true := by
      rw [hpump]
      exact beq_self_eq_true (some r)
    exact Int.le_trans (h.onTime.trigger_le hx (.inr htaken)) (le_deadline ..)
  | false =>
    rw [step_trigger hstep hpost hx hy]
    split
    next hends =>
      have htaken := taken_of_endsBody (endsBody_of_endsWell hends)
      exact x.recurrence.le_nextRun (h.onTime.trigger_le hx (.inl (.inr htaken)))
    next => exact Int.le_refl _

/-- A run that ends well moves the trigger, which had come, to where the recurrence says. -/
theorem Timely.next_trigger (h : Timely s r) (hstep : s.step a = some s')
    (hends : endsWell r s a s' = true) (hx : s.record? r = some x) (hy : s'.record? r = some y) :
    x.trigger ≤ s.now ∧ y.trigger = x.recurrence.nextRun s.clockEnd x.trigger s.now := by
  have htaken := taken_of_endsBody (endsBody_of_endsWell hends)
  have hle := s.taken_le_hands r
  have hsole : s.queue.holds r + s.pumpHolds r + (s.pool.queue.count r + s.pool.hands r) +
    s.arriving r ≤ 1 := h.tame.sole_of_hands (by omega)
  refine ⟨h.onTime.trigger_le hx (.inl (.inr htaken)), ?_⟩
  have hnext := step_trigger hstep (postpones_eq_false (by omega)) hx hy
  rwa [hends, if_pos rfl] at hnext

theorem InReach.deadline (h : InReach s) {base : Instant} (hbase : base ≤ s.now) :
    deadline s.clockEnd base period = base + (min period maxDelay).nanos := by
  refine deadline_of_clamped_fits (Int.le_trans (Int.add_le_add hbase ?_) h)
  rw [Duration.nanos_min]
  exact Int.ofNat_le.mpr (Nat.min_le_right _ _)

theorem exec_clockEnd {actions : List (Action α)} (hrun : s.exec actions = some t) :
    t.clockEnd = s.clockEnd := by
  refine exec_keeps (P := fun t => t.clockEnd = s.clockEnd) (fun _ hend hstep => ?_) rfl hrun
  exact (step_of_move (P := fun s' => s'.clockEnd = _) (fun _ => rfl)
    (fun hmove => hmove.settings.2) hstep).trans hend

theorem InReach.before {actions : List (Action α)} (h : InReach t)
    (hrun : s.exec actions = some t) : InReach s := by
  have hreach : t.now + maxDelay.nanos ≤ t.clockEnd := h
  rw [exec_clockEnd hrun] at hreach
  exact Int.le_trans (Int.add_le_add_right (exec_now_le hrun) _) hreach

/-! ## Whole runs -/

/-- A task that repeats is as it has been made. -/
theorem Reachable.timely_of_made (hs : Reachable s) (hnew : s.record? r = none)
    (hstep : s.step a = some s') (hx : s'.record? r = some x) (hrepeats : x.repeats = true) :
    Timely s' r where
  reachable := hs.step a hstep
  repeats := by
    rw [repeats, hx]
    exact hrepeats
  tame := by
    have hnowhere := hs.unmade hnew
    refine .inl (step_of_move (P := fun s' => Sole s' r) (fun _ => rfl) (fun {t} hmove => ?_) hstep)
    show t.places r + t.arriving r ≤ 1
    rcases (hmove.passes hs.numbered hs.attended r).bounded with hle | ⟨hmore, -⟩ <;> omega
  onTime := .of_away (hs.made_unqueued hnew hstep) (hs.made_unreleased hnew hstep)

theorem Timely.exec {actions : List (Action α)} (h : Timely s r) (hx : s.record? r = some x)
    (hrun : s.exec actions = some t) (hnot : s.occurrences (takesUpFaulted r) actions = 0) :
    Ended t r ∨ (Timely t r ∧ ∃ y, t.record? r = some y ∧ y.recurrence = x.recurrence ∧
      x.trigger ≤ y.trigger) := by
  induction actions generalizing s x with
  | nil =>
    cases hrun
    exact .inr ⟨h, x, hx, rfl, Int.le_refl _⟩
  | cons a rest ih =>
    obtain ⟨s', hstep, hrest⟩ := exec_cons hrun
    obtain ⟨hnot, hnot'⟩ := occurrences_cons_eq_zero hstep hnot
    rcases h.step hstep hnot with htimely | hended
    · obtain ⟨y, hy, hkeeps⟩ := step_record hstep hx
      refine (ih htimely hy hrest hnot').imp_right fun ⟨ht, z, hz, hsame, hle⟩ => ?_
      exact ⟨ht, z, hz, hsame.trans hkeeps.recurrence,
        Int.le_trans (h.trigger_le hstep hx hy) hle⟩
    · exact .inl (hended.exec (h.reachable.step a hstep) hrest)

/-- A step of a task at a fixed rate: the trigger is a period further, or the task comes to its end,
if a run ends. -/
theorem Timely.rate_step (h : Timely s r) (hreach : InReach s) (hstep : s.step a = some s')
    (hx : s.record? r = some x) (hrate : x.recurrence = .fixedRate period)
    (hy : s'.record? r = some y) :
    Ended s' r ∨
      x.trigger + ((s.running r + (startsBody r s a s').toNat) * (min period maxDelay).nanos : Nat)
        ≤ y.trigger + (s'.running r * (min period maxDelay).nanos : Nat) := by
  have hbalance := step_running hstep r
  cases hends : endsBody r s a s' with
  | false =>
    rw [hends, Bool.toNat_false, Nat.add_zero] at hbalance
    rw [← hbalance]
    exact .inr (Int.add_le_add_right (h.trigger_le hstep hx hy) _)
  | true =>
    rw [hends, Bool.toNat_true] at hbalance
    cases hwell : endsWell r s a s' with
    | false => exact .inl (h.reachable.ended_of_endsBody hstep hends hwell)
    | true =>
      obtain ⟨hdue, hnext⟩ := h.next_trigger hstep hwell hx hy
      rw [hrate] at hnext
      have hperiod : y.trigger = x.trigger + (min period maxDelay).nanos :=
        hnext.trans (hreach.deadline hdue)
      refine .inr (Int.le_of_eq ?_)
      rw [← hbalance, hperiod, Nat.add_mul, Nat.one_mul, Int.natCast_add, Int.add_assoc,
        Int.add_comm ((min period maxDelay).nanos : Int)]

/-- At a fixed rate the trigger is a period further for every run that has been started, but for the
one that goes on. -/
theorem Timely.exec_rate {actions : List (Action α)} (h : Timely s r) (hreach : InReach t)
    (hx : s.record? r = some x) (hrate : x.recurrence = .fixedRate period)
    (hrun : s.exec actions = some t) (hnot : s.occurrences (takesUpFaulted r) actions = 0) :
    Ended t r ∨ ∃ y, t.record? r = some y ∧
      x.trigger + ((s.running r + s.occurrences (startsBody r) actions) *
        (min period maxDelay).nanos : Nat) ≤
          y.trigger + (t.running r * (min period maxDelay).nanos : Nat) := by
  induction actions generalizing s x with
  | nil =>
    cases hrun
    exact .inr ⟨x, hx, Int.le_refl _⟩
  | cons a rest ih =>
    obtain ⟨s', hstep, hrest⟩ := exec_cons hrun
    obtain ⟨hnot, hnot'⟩ := occurrences_cons_eq_zero hstep hnot
    obtain ⟨y, hy, hkeeps⟩ := step_record hstep hx
    have hs' := h.reachable.step a hstep
    rcases h.step hstep hnot with htimely | hended
    · rcases h.rate_step (hreach.before hrun) hstep hx hrate hy with hended | hstep'
      · exact .inl (hended.exec hs' hrest)
      · refine (ih htimely hy (hkeeps.recurrence.trans hrate) hrest hnot').imp_right
          fun ⟨z, hz, hle⟩ => ⟨z, hz, ?_⟩
        rw [occurrences_cons hstep, ← Nat.add_assoc, Nat.add_mul, Int.natCast_add,
          ← Int.add_assoc]
        refine Int.le_trans (Int.add_le_add_right hstep' _) ?_
        rw [Int.add_assoc, ← Int.natCast_add, ← Nat.add_mul]
        exact hle
    · exact .inl (hended.exec hs' hrest)

/-- When a body is started, the trigger of the task has come, and no run of it goes on. -/
theorem Timely.at_start (h : Timely s r) (hx : s.record? r = some x)
    (hstarts : startsBody r s a t = true) : x.trigger ≤ s.now ∧ s.running r = 0 := by
  refine ⟨h.onTime.trigger_le hx (.inl (handedOver_of_startsBody hstarts)), ?_⟩
  obtain ⟨i, hphase⟩ := begun_of_startsBody hstarts
  have hentering : 0 < s.entering r := Pool.tally_pos hphase (beq_self_eq_true _)
  have hone := (h.reachable.attended r).one
  rw [bodies_eq] at hone
  omega

theorem Timely.rate_start {actions : List (Action α)} {u : System α} (h : Timely s r)
    (hx : s.record? r = some x) (hrun : s.exec actions = some t)
    (hnot : s.occurrences (takesUpFaulted r) actions = 0) (hreach : InReach t)
    (hstarts : startsBody r t b u = true) (hrate : x.recurrence = .fixedRate period) :
    x.trigger + (s.occurrences (startsBody r) actions * (min period maxDelay).nanos : Nat) ≤
      t.now := by
  have hstill : ¬Ended t r := fun hended => ne_true_of_eq_false hended.not_starts hstarts
  obtain ⟨ht, y, hy, -⟩ := (h.exec hx hrun hnot).resolve_left hstill
  obtain ⟨y', hy', hle⟩ := (h.exec_rate hreach hx hrate hrun hnot).resolve_left hstill
  obtain rfl : y = y' := Option.some.inj (hy.symm.trans hy')
  obtain ⟨hdue, hrunning⟩ := ht.at_start hy hstarts
  rw [hrunning, Nat.zero_mul] at hle
  have hstarted : s.occurrences (startsBody r) actions * (min period maxDelay).nanos ≤
      (s.running r + s.occurrences (startsBody r) actions) * (min period maxDelay).nanos :=
    Nat.mul_le_mul_right _ (Nat.le_add_left _ _)
  calc x.trigger + (s.occurrences (startsBody r) actions * (min period maxDelay).nanos : Nat)
      ≤ x.trigger + ((s.running r + s.occurrences (startsBody r) actions) *
          (min period maxDelay).nanos : Nat) :=
        Int.add_le_add_left (Int.ofNat_le.mpr hstarted) _
    _ ≤ y.trigger := Int.le_trans hle (Int.le_of_eq (Int.add_zero _))
    _ ≤ t.now := hdue

theorem Timely.delay_start {before after : List (Action α)} {c u : System α}
    {result : Except Failure α} (h : Timely s r) (hx : s.record? r = some x)
    (hrun : s.exec (before ++ .bodyEnds i result :: after) = some t)
    (hnot : s.occurrences (takesUpFaulted r) (before ++ .bodyEnds i result :: after) = 0)
    (hreach : InReach t) (hstarts : startsBody r t b u = true)
    (hdelay : x.recurrence = .fixedDelay period) (hbefore : s.exec before = some c)
    (hphase : c.pool.phase? i = some (.running r)) :
    c.now + (min period maxDelay).nanos ≤ t.now := by
  have hstill : ∀ {v : System α} {actions : List (Action α)}, Reachable v →
      v.exec actions = some t → ¬Ended v r := fun hv hrun hended =>
    ne_true_of_eq_false (hended.exec hv hrun).not_starts hstarts
  have hrest : c.exec (.bodyEnds i result :: after) = some t := (exec_append hbefore).mp hrun
  rw [occurrences_append hbefore] at hnot
  obtain ⟨hnot, hnot'⟩ := Nat.add_eq_zero_iff.mp hnot
  have hcs : Reachable c := h.reachable.exec hbefore
  obtain ⟨hc, y, hy, hsame, -⟩ := (h.exec hx hbefore hnot).resolve_left (hstill hcs hrest)
  obtain ⟨d, hstep, hafter⟩ := exec_cons hrest
  have hds : Reachable d := hcs.step _ hstep
  obtain ⟨hfault, hnot''⟩ := occurrences_cons_eq_zero hstep hnot'
  have hd := (hc.step hstep hfault).resolve_right (hstill hds hafter)
  obtain ⟨z, hz, -⟩ := step_record hstep hy
  have hends : endsBody r c (.bodyEnds i result) d = true := by
    rw [endsBody, hphase]
    exact beq_self_eq_true r
  have hwell : endsWell r c (.bodyEnds i result) d = true := by
    refine eq_true_of_ne_false fun hwell => ?_
    exact hstill hds hafter (hcs.ended_of_endsBody hstep hends hwell)
  have hnext := (hc.next_trigger hstep hwell hy hz).2
  rw [hsame, hdelay] at hnext
  have hperiod : z.trigger = c.now + (min period maxDelay).nanos :=
    hnext.trans ((hreach.before hrest).deadline (Int.le_refl _))
  obtain ⟨ht, w, hw, -, hle⟩ := (hd.exec hz hafter hnot'').resolve_left fun hended =>
    ne_true_of_eq_false hended.not_starts hstarts
  exact hperiod ▸ Int.le_trans hle (ht.at_start hw hstarts).1

/-- No body starts before its time, from the step on that makes the record.

A record that runs once starts after its trigger, unless the delay queue had been closed when it was
released. As long as the end of the clock is out of reach, the start of a task at a fixed rate that
follows `n` others is not before `n` periods after its first trigger, and one of a task at a fixed
delay is not before a period after the end of any earlier run. Hand-offs may fail and be repeated,
the pool may be resized, and the service may drain.

What is said of tasks that repeat does not hold when a panic goes through a hand-off and a worker
picks the record up before the pump takes it back. The pump finds nothing to take back, but repeats
the hand-off all the same, and the record is held twice. -/
theorem no_task_starts_early {actions : List (Action α)} {u : System α} (hs : Reachable s)
    (hnew : s.record? r = none) (hmade : s.step a = some s') (hx : s'.record? r = some x)
    (hrun : s'.exec actions = some t) (hstarts : startsBody r t b u = true) :
    (x.recurrence = .once → x.trigger ≤ t.now ∨
      (0 < s'.occurrences (releases r) actions ∧ s'.occurrences (releasesOpen r) actions = 0)) ∧
    (t.now + maxDelay.nanos ≤ t.clockEnd → s'.occurrences (takesUpFaulted r) actions = 0 →
      (∀ period, x.recurrence = .fixedRate period →
        x.trigger + (s'.occurrences (startsBody r) actions * (min period maxDelay).nanos : Nat) ≤
          t.now) ∧
      (∀ period, x.recurrence = .fixedDelay period →
        ∀ before i result after c, actions = before ++ .bodyEnds i result :: after →
          s'.exec before = some c → c.pool.phase? i = some (.running r) →
            c.now + (min period maxDelay).nanos ≤ t.now)) := by
  have hs' : Reachable s' := hs.step a hmade
  refine ⟨fun honce => ?_, fun hreach hnot => ⟨fun period hrate => ?_, ?_⟩⟩
  · have hunreleased : Unreleased s' r x.trigger :=
      ⟨⟨x, hx, honce, rfl⟩, fun he => absurd he
        (DelayQueue.holds_eq_zero_iff.mp (hs.made_unqueued hnew hmade) _),
        hs.made_unreleased hnew hmade⟩
    rcases hunreleased.exec hs' hrun with hdue | hstill | hclosed
    · exact .inl hdue
    · exact absurd (.inl (handedOver_of_startsBody hstarts)) hstill.kept
    · exact .inr hclosed
  · have htimely : Timely s' r :=
      hs.timely_of_made hnew hmade hx (by rw [Record.repeats, hrate]; rfl)
    exact htimely.rate_start hx hrun hnot hreach hstarts hrate
  · rintro period hdelay before i result after c rfl hbefore hphase
    have htimely : Timely s' r :=
      hs.timely_of_made hnew hmade hx (by rw [Record.repeats, hdelay]; rfl)
    exact htimely.delay_start hx hrun hnot hreach hstarts hdelay hbefore hphase

/-- The task of `scheduledAtRate` gets into the delay queue. The first hand-off panics and is
repeated. The task runs, and is picked up for its second run. -/
def pickedUpAgain : List (Action Unit) :=
  scheduledAtRate.drop 2 ++ putOffOnce ++
    [.worker 0, .worker 0, .worker 0, .pump 0, .pump 0, .pump 0, .pump 0, .worker 0, .worker 0]

/-- The second run starts a period after the first trigger, or later. -/
theorem second_run_is_a_period_later :
    ∃ s, (System.initial .lenient "service" (.ofProcessors 1) 10000000000000000000 0).exec
        (scheduledAtRate.take 1) = some s ∧
      ∃ s', s.step (.begin (.scheduleSeries .zero (.fixedRate (.ofNanos 5)))) = some s' ∧
      ∃ t, s'.exec pickedUpAgain = some t ∧ ∃ u, t.step (.worker 0) = some u ∧
        startsBody 0 t (.worker 0) u = true ∧
        s'.occurrences (startsBody 0) pickedUpAgain = 1 ∧ 5 ≤ t.now := by
  have hruns : ((System.initial .lenient "service" (.ofProcessors 1) 10000000000000000000 0).exec
      (scheduledAtRate.take 1)).any (fun s =>
        (s.step (.begin (.scheduleSeries .zero (.fixedRate (.ofNanos 5))))).any fun s' =>
          (s'.exec pickedUpAgain).any fun t => (t.step (.worker 0)).any fun u => decide (
            (s.record? 0).isNone = true ∧
            (s'.record? 0).map (fun x => (x.recurrence, x.trigger)) =
              some (.fixedRate (.ofNanos 5), 0) ∧
            t.now + maxDelay.nanos ≤ t.clockEnd ∧
            s'.occurrences (takesUpFaulted 0) pickedUpAgain = 0 ∧
            startsBody 0 t (.worker 0) u = true ∧
            s'.occurrences (startsBody 0) pickedUpAgain = 1)) = true := by
    decide +kernel
  simp only [Option.any_eq_true, decide_eq_true_eq] at hruns
  obtain ⟨s, hs, s', hmade, t, hrun, u, hstep, hnew, hrecord, hreach, hnot, hstarts, honce⟩ := hruns
  obtain ⟨x, hx, hpair⟩ := Option.map_eq_some_iff.mp hrecord
  obtain ⟨hrate, htrigger⟩ := Prod.mk.inj hpair
  refine ⟨s, hs, s', hmade, t, hrun, u, hstep, hstarts, honce, ?_⟩
  have hreachable : Reachable s :=
    (Reachable.initial .lenient "service" (.ofProcessors 1) 10000000000000000000 0).exec hs
  have hbound := ((no_task_starts_early hreachable (Option.isNone_iff_eq_none.mp hnew) hmade hx hrun
    hstarts).2 hreach hnot).1 (.ofNanos 5) hrate
  rw [honce, htrigger] at hbound
  exact hbound

/-- A task is scheduled that is to rest for an hour between its runs. A panic of the factory goes
through its hand-off, a worker picks it up from the run queue, and the pump puts it back into the
delay queue. The worker enters its body. -/
def ranWhileQueued : List (Action Unit) :=
  [.setFactory { start := fun _ _ => .started "worker" }, .setCoreSize 2, .prestart 1,
    .setFactory (.unwinding (.literal "no threads")),
    .begin (.scheduleSeries .zero (.fixedDelay (.ofSeconds 3600))),
    .call 0 0, .call 0 0, .call 0 0, .call 0 0, .pump 0, .pump 0, .pump 0, .pump 0,
    .worker 0, .pump 0, .pump 0, .pump 0, .pump 0, .pump 0, .worker 0, .worker 0]

/-- The body returns, and the task gets into the delay queue under its next trigger as well. The
pump hands over what it had put back before. -/
def handedOverAgain : List (Action Unit) :=
  [.bodyEnds 0 (.ok ()), .worker 0, .worker 0,
    .setFactory { start := fun _ _ => .started "worker" },
    .passTime (.ofMillis 20), .pump 0, .pump 0, .pump 0, .pump 0, .worker 0, .worker 0]

/-- The second run starts twenty milliseconds after the end of the first one, and not an hour. -/
theorem task_held_twice_starts_early :
    ∃ c t u : System Unit,
      (System.initial .lenient "service" (.ofProcessors 2) 10000000000000000000 0).exec
        ranWhileQueued = some c ∧
      c.pool.phase? 0 = some (.running 0) ∧ c.queue.refs = [0] ∧
      c.exec handedOverAgain = some t ∧ t.step (.worker 0) = some u ∧
      (t.record? 0).map (·.recurrence) = some (.fixedDelay (.ofSeconds 3600)) ∧
      t.now + maxDelay.nanos ≤ t.clockEnd ∧ startsBody 0 t (.worker 0) u = true ∧
      t.now < c.now + (min (.ofSeconds 3600) maxDelay).nanos := by
  have hruns : ((System.initial .lenient "service" (.ofProcessors 2) 10000000000000000000 0).exec
      ranWhileQueued).any (fun c : System Unit => (c.exec handedOverAgain).any fun t =>
        (t.step (.worker 0)).any fun u => decide (
          c.pool.phase? 0 = some (.running 0) ∧ c.queue.refs = [0] ∧
          (t.record? 0).map (·.recurrence) = some (.fixedDelay (.ofSeconds 3600)) ∧
          t.now + maxDelay.nanos ≤ t.clockEnd ∧ startsBody 0 t (.worker 0) u = true ∧
          t.now < c.now + (min (.ofSeconds 3600) maxDelay).nanos)) = true := by
    decide +kernel
  simp only [Option.any_eq_true, decide_eq_true_eq] at hruns
  obtain ⟨c, hbefore, t, hafter, u, hstep, hrunning, hqueued, hview⟩ := hruns
  exact ⟨c, t, u, hbefore, hrunning, hqueued, hafter, hstep, hview⟩

end System

end TaskScheduler
