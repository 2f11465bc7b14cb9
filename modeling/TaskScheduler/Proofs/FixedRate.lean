import TaskScheduler.Proofs.Triggers

/-
  The grid of a task at a fixed rate.

  The next trigger of such a task is its previous trigger plus the period, whenever the run between
  them has begun and ended. So over a run of the service the triggers lie on a grid
  (`exec_trigger`), as long as no hand-off of the task to the pool is put off. The pump that puts
  one off overwrites the trigger, and the grid starts anew from there (`fixed_rate_keeps_grid`).
-/
namespace TaskScheduler

/-- What the pump does, or what happens to it. -/
def Action.isPump {α : Type} : Action α → Bool
  | pump _ | pumpIdle | pumpFault _ => true
  | _ => false

namespace System

variable {α : Type} {s s' t : System α} {a : Action α} {r : Ref} {x y : Record α}
  {period : Duration}

/-- What one step does to a task at a fixed rate that it does not put off: it moves the trigger by
the period if a run of the task ends well, and leaves it else. -/
theorem step_fixedRate (hx : s.record? r = some x) (hrate : x.recurrence = .fixedRate period)
    (hmax : period ≤ maxDelay) (hstep : s.step a = some s')
    (hnot : postpones r s a s' = false)
    (hfits : x.trigger + ((endsWell r s a s').toNat * period.nanos : Nat) ≤ s.clockEnd) :
    ∃ y, s'.record? r = some y ∧ y.recurrence = .fixedRate period ∧
      s'.clockEnd = s.clockEnd ∧
      y.trigger = x.trigger + ((endsWell r s a s').toNat * period.nanos : Nat) := by
  obtain ⟨y, hy, hkeeps⟩ := step_record hstep hx
  have hend : s'.clockEnd = s.clockEnd := step_of_move (P := fun s' => s'.clockEnd = s.clockEnd)
    (fun _ => rfl) (fun hmove => hmove.settings.2) hstep
  have htrigger := step_trigger hstep hnot hx hy
  refine ⟨y, hy, hkeeps.recurrence.trans hrate, hend, ?_⟩
  cases hends : endsWell r s a s' with
  | false =>
    rw [hends, if_neg Bool.false_ne_true] at htrigger
    rw [htrigger, Bool.toNat_false, Nat.zero_mul]
    exact (Int.add_zero _).symm
  | true =>
    rw [hends, if_pos rfl, hrate] at htrigger
    rw [hends, Bool.toNat_true, Nat.one_mul] at hfits
    rw [htrigger, Bool.toNat_true, Nat.one_mul]
    exact deadline_of_fits hmax hfits

/-- Over a run that does not put the task off, the trigger moves by a period for each of its runs
that ends well. -/
theorem exec_trigger {actions : List (Action α)} (hx : s.record? r = some x)
    (hrate : x.recurrence = .fixedRate period) (hmax : period ≤ maxDelay)
    (hrun : s.exec actions = some t) (hnot : s.occurrences (postpones r) actions = 0)
    (hfits : x.trigger + (s.occurrences (endsWell r) actions * period.nanos : Nat) ≤ s.clockEnd) :
    ∃ y, t.record? r = some y ∧
      y.trigger = x.trigger + (s.occurrences (endsWell r) actions * period.nanos : Nat) := by
  induction actions generalizing s x with
  | nil =>
    cases hrun
    refine ⟨x, hx, ?_⟩
    rw [occurrences, Nat.zero_mul]
    exact (Int.add_zero _).symm
  | cons a rest ih =>
    obtain ⟨s', hstep, hrest⟩ := exec_cons hrun
    obtain ⟨hnot, hnot'⟩ := occurrences_cons_eq_zero hstep hnot
    rw [occurrences_cons hstep] at hfits ⊢
    rw [Nat.add_mul, Int.natCast_add, ← Int.add_assoc] at hfits ⊢
    obtain ⟨y, hy, hrate', hend, htrigger⟩ := step_fixedRate hx hrate hmax hstep hnot
      (Int.le_trans (Int.le_add_of_nonneg_right (Int.natCast_nonneg _)) hfits)
    rw [← htrigger, ← hend] at hfits
    obtain ⟨z, hz, hfinal⟩ := ih hy hrate' hrest hnot' hfits
    exact ⟨z, hz, by rw [hfinal, htrigger]⟩

/-! ## Putting off -/

/-- Only the actions of the pump change what it is doing. Others may start it if there is none. -/
theorem Move.pump_kept (h : Move s a t) (ha : a.isPump = false) (hpump : s.pump ≠ none) :
    t.pump = s.pump := by
  have hcalls : ∀ {duty duty' : Duty} {u : System α}, CallMove s duty u duty' →
      u.pump = s.pump := by
    intro duty duty' u hmove
    cases hmove <;> first | rfl | exact absurd ‹s.pump = none› hpump
  cases h with
  | begun hmove =>
    have hkept := hcalls hmove
    exact hkept
  | called _ hmove | callRefused _ hmove =>
    have hkept := hcalls hmove
    exact hkept
  | pumped _ | pumpIdled _ | pumpFaulted _ => cases ha
  | worked hmove => cases hmove <;> first | rfl | exact absurd ‹s.pump = none› hpump
  | _ => rfl

/-- The pump puts a record off to the end of the wait that it has decided on. -/
theorem step_postpones (hstep : s.step a = some s') (hpost : postpones r s a s' = true)
    (hx : s.record? r = some x) :
    ∃ backoff, s.pump = some (.postponing r backoff) ∧
      s'.record? r = some { x with trigger := deadline s.clockEnd s.now backoff } := by
  rw [postpones, Bool.and_eq_true, Bool.and_eq_true, Option.any_eq_true] at hpost
  obtain ⟨⟨hpending, phase, hpump, hphase⟩, hafter⟩ := hpost
  obtain ⟨backoff, rfl⟩ := PumpPhase.isPostponing_iff.mp hphase
  have hafter : s'.pump = some (.offering r) := eq_of_beq hafter
  refine ⟨backoff, hpump, ?_⟩
  cases ha : a.isPump with
  | false =>
    obtain ⟨t, hmove, hcore⟩ := step_move hstep
    have hkept : s'.pump = s.pump := (congrArg (fun w => w.pump) hcore).trans
      (hmove.pump_kept ha (by rw [hpump]; exact Option.some_ne_none _))
    rw [hafter, hpump] at hkept
    cases hkept
  | true =>
    cases a with
    | pump choice =>
      have hstep : s.pumpStep choice = some s' := hstep
      rw [pumpStep, hpump] at hstep
      cases hstep
      obtain ⟨x', hx', hstate⟩ := isPending_iff.mp hpending
      obtain rfl : x = x' := Option.some.inj (hx.symm.trans hx')
      show (s.postpone r (deadline s.clockEnd s.now backoff)).record? r = _
      rw [record?_of_modify (s := s) (r := r) rfl, if_pos rfl, hx, Option.map_some,
        Record.postpone, hstate]
    | pumpIdle =>
      have hstep : s.pumpIdle = some s' := hstep
      rw [pumpIdle, hpump] at hstep
      cases hstep
    | pumpFault failure =>
      have hstep : s.pumpFault failure = some s' := hstep
      rw [pumpFault, hpump] at hstep
      cases hstep
    | _ => cases ha

/-- A task at a fixed rate, from any moment on: after its `n`-th run that has ended well the trigger
is `n` periods later, as long as no hand-off of it is put off, and the clock gets that far. A task
whose hand-off is put off has the end of that wait for its trigger, and its grid starts from
there. -/
theorem fixed_rate_keeps_grid (hx : s.record? r = some x)
    (hrate : x.recurrence = .fixedRate period) (hmax : period ≤ maxDelay) :
    (∀ actions t, s.exec actions = some t → s.occurrences (postpones r) actions = 0 →
      x.trigger + (s.occurrences (endsWell r) actions * period.nanos : Nat) ≤ s.clockEnd →
      ∃ y, t.record? r = some y ∧
        y.trigger = x.trigger + (s.occurrences (endsWell r) actions * period.nanos : Nat)) ∧
    (∀ a t, s.step a = some t → postpones r s a t = true →
      ∃ backoff, s.pump = some (.postponing r backoff) ∧
        ∃ y, t.record? r = some y ∧ y.recurrence = .fixedRate period ∧
          y.trigger = deadline s.clockEnd s.now backoff) := by
  refine ⟨fun actions t hrun hnot hfits => exec_trigger hx hrate hmax hrun hnot hfits, ?_⟩
  intro a t hstep hpost
  obtain ⟨backoff, hpump, hy⟩ := step_postpones hstep hpost hx
  exact ⟨backoff, hpump, _, hy, hrate, rfl⟩

/-- A task is scheduled that is to run every five nanoseconds. -/
def scheduledAtRate : List (Action Unit) :=
  [.setFactory { start := fun _ _ => .started "worker" },
    .begin (.scheduleSeries .zero (.fixedRate (.ofNanos 5))),
    .call 0 0, .call 0 0, .call 0 0, .call 0 0]

/-- The task is handed to the pool, and its body returns. -/
def ranTwice : List (Action Unit) :=
  [.pump 0, .pump 0, .pump 0, .pump 0,
    .worker 0, .worker 0, .worker 0, .bodyEnds 0 (.ok ()), .worker 0, .worker 0, .worker 0,
    .passTime (.ofNanos 20), .pump 0, .pump 0, .pump 0, .pump 0,
    .worker 0, .worker 0, .worker 0, .bodyEnds 0 (.ok ())]

/-- The first hand-off of the task panics. It is repeated after a while, and the body returns. -/
def putOffOnce : List (Action Unit) :=
  [.pump 0, .pump 0, .pump 0, .pumpFault ⟨.literal "no memory"⟩,
    .pump 0, .pump 0, .pump 0, .pump 0, .pump 0,
    .passTime (.ofMillis 20), .pump 0, .pump 0, .pump 0, .pump 0,
    .worker 0, .worker 0, .worker 0, .bodyEnds 0 (.ok ())]

/-- After two runs the trigger is two periods later, though the second run was late. -/
theorem late_runs_keep_grid :
    ∃ s t : System Unit, (System.initial .lenient "service" (.ofProcessors 1) 1000000000000 0).exec
        scheduledAtRate = some s ∧
      (s.record? 0).map (·.trigger) = some 0 ∧
      s.exec ranTwice = some t ∧ s.occurrences (endsWell 0) ranTwice = 2 ∧ t.now = 20 ∧
      (t.record? 0).map (·.trigger) = some 10 := by
  have hscheduled : ((System.initial .lenient "service" (.ofProcessors 1) 1000000000000 0).exec
      scheduledAtRate).map (fun s => (s.clockEnd, (s.record? 0).map fun x =>
        (x.recurrence, x.trigger))) =
          some (1000000000000, some (.fixedRate (.ofNanos 5), 0)) := by decide +kernel
  have hran : ((System.initial .lenient "service" (.ofProcessors 1) 1000000000000 0).exec
      scheduledAtRate).map (fun s => ((s.exec ranTwice).map (·.now),
        s.occurrences (endsWell 0) ranTwice, s.occurrences (postpones 0) ranTwice)) =
          some (some 20, 2, 0) := by decide +kernel
  obtain ⟨s, hs, hrecord⟩ := Option.map_eq_some_iff.mp hscheduled
  rw [hs, Option.map_some, Option.some.injEq, Prod.mk.injEq, Prod.mk.injEq] at hran
  rw [Prod.mk.injEq, Option.map_eq_some_iff] at hrecord
  obtain ⟨hend, x, hx, hrate⟩ := hrecord
  obtain ⟨hrate, htrigger⟩ := Prod.mk.inj hrate
  obtain ⟨hexec, hends, hnot⟩ := hran
  obtain ⟨t, ht, hnow⟩ := Option.map_eq_some_iff.mp hexec
  obtain ⟨y, hy, hgrid⟩ := (fixed_rate_keeps_grid hx hrate (by decide)).1 ranTwice t ht hnot
    (by rw [hends, htrigger, hend]; decide)
  rw [hends, htrigger] at hgrid
  refine ⟨s, t, hs, ?_, ht, hends, hnow, ?_⟩
  · rw [hx, ← htrigger]
    rfl
  · rw [hy, Option.map_some, hgrid]
    rfl

/-- After one run the trigger is not one period later, if the hand-off before it was put off. -/
theorem put_off_task_leaves_grid :
    ((System.initial .lenient "service" (.ofProcessors 1) 1000000000000 0).exec
      scheduledAtRate).bind (fun s => (s.exec putOffOnce).map fun t => (s.occurrences (endsWell 0) putOffOnce,
          (s.record? 0).map (·.trigger), (t.record? 0).map (·.trigger))) =
      some (1, some 0, some 10000005) := by decide +kernel

end System

end TaskScheduler
