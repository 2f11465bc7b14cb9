import TaskScheduler.Proofs.Drain
import TaskScheduler.Proofs.FixedRate

/-
  How often hand-offs of a record have failed.

  `failures s r` is the number that is kept with the record, in a word of 32 bits.
  `Reachable.step_failures`: only the pump changes it, by one, when it notes a failed hand-off, and
  what it does next depends on whether the number has reached the limit (`Notes`). `Limited`: the
  number stays below the limit as long as there is a hand-off to be tried. `Steady.exec_limited`: so
  it is as long as no factory lets a panic through, because then no two hand-offs of a record fail
  side by side. `Reachable.limited_once`: so it is in every run with a record that runs once,
  because such a record does not come to wait again.
-/
namespace TaskScheduler

namespace System

variable {α : Type} {s s' t u : System α} {a : Action α} {r : Ref}

/-- The number of hand-offs of the record that have failed. -/
def failures (s : System α) (r : Ref) : Nat :=
  ((s.record? r).map (·.failedHandoffs.toNat)).getD 0

/-- The most hand-offs of a record that the service tries. -/
def handoffLimit (s : System α) : Nat := max 1 s.config.retryLimit.toNat

theorem failures_of_record {x : Record α} (hx : s.record? r = some x) :
    s.failures r = x.failedHandoffs.toNat := by
  rw [failures, hx]
  rfl

theorem failures_of_none (hx : s.record? r = none) : s.failures r = 0 := by
  rw [failures, hx]
  rfl

theorem handoffLimit_lt (s : System α) : s.handoffLimit < UInt32.size := by
  have hlt := s.config.retryLimit.toNat_lt
  have hsize : UInt32.size = 4294967296 := rfl
  rw [handoffLimit]
  omega

/-! ## Who notes failures -/

/-- The pump notes a failed hand-off of the record in hand. -/
structure Notes (s t : System α) (r : Ref) : Prop where
  failed : ∃ reason, s.pump = some (.failed r reason)
  queue : t.queue = s.queue
  noted : t.failures r = (s.failures r + 1) % UInt32.size
  others : ∀ r', r' ≠ r → t.failures r' = s.failures r'
  after : (∃ reason, t.pump = some (.rejecting r reason)) ∨
    ∃ backoff, t.pump = some (.postponing r backoff) ∧ t.failures r < s.config.retryLimit.toNat

theorem Notes.congr (h : Notes s t r) (hcore : u.core = t.core) : Notes s u r :=
  of_core (P := fun u => Notes s u r)
    (fun _ => propext ⟨fun h => ⟨h.failed, h.queue, h.noted, h.others, h.after⟩,
      fun h => ⟨h.failed, h.queue, h.noted, h.others, h.after⟩⟩) hcore h

/-- Where all records keep their numbers, new ones begin with none. -/
theorem Evolves.failures (h : Evolves Record.SameHandoffs s t) (r : Ref) :
    t.failures r = s.failures r := by
  cases hx : s.record? r with
  | some x =>
    obtain ⟨y, hy, hsame⟩ := h.kept hx
    rw [failures_of_record hx, failures_of_record hy, hsame]
  | none =>
    cases hy : t.record? r with
    | some y =>
      rw [failures_of_none hx, failures_of_record hy, (h.made hy hx).unfailed]
      rfl
    | none => rw [failures_of_none hx, failures_of_none hy]

theorem Reachable.notes {r : Ref} {reason : String} {next : PumpPhase} (hs : Reachable s)
    (hpump : s.pump = some (.failed r reason)) (hafter : AfterFailure s r next) :
    Notes s { s with records := s.records.modify r (·.noteHandoffFailure), pump := some next }
      r := by
  obtain ⟨x, hx⟩ := hs.known_in_hand hpump rfl
  have hrecord := record?_of_modify (s := s) (t := { s with
    records := s.records.modify r (·.noteHandoffFailure), pump := some next }) rfl
  have hy := hrecord r
  rw [if_pos rfl, hx, Option.map_some] at hy
  refine ⟨⟨reason, hpump⟩, rfl, ?_, fun r' hr => ?_, ?_⟩
  · rw [failures_of_record hx, failures_of_record hy]
    exact UInt32.toNat_add _ _
  · rw [failures, failures, hrecord, if_neg (Ne.symm hr)]
  · cases hafter with
    | rejecting _ => exact .inl ⟨_, rfl⟩
    | postponing backoff hlimit =>
      refine .inr ⟨backoff, rfl, ?_⟩
      rw [failures_of_record hy]
      exact hlimit x hx

theorem PumpMove.failures (h : PumpMove s t) (hs : Reachable s) :
    (∃ r, Notes s t r) ∨ ∀ r, t.failures r = s.failures r := by
  have hrefl : ∀ x : Record α, Record.SameHandoffs x x := fun _ => rfl
  have hreject : ∀ (x : Record α) (reason : String),
      Record.SameHandoffs x (x.reject reason).1 := by
    intro x reason
    unfold Record.reject Record.SameHandoffs
    split <;> rfl
  cases h with
  | noted hpump hafter => exact .inl ⟨_, hs.notes hpump hafter⟩
  | gaveUp _ =>
    exact .inr (Evolves.failures (.of_modify rfl rfl hrefl fun x _ => x.giveUp_handoffs))
  | @rejected _ reason _ =>
    exact .inr (Evolves.failures (.of_modify rfl rfl hrefl fun x _ => hreject x reason))
  | postponed _ =>
    refine .inr (Evolves.failures (.of_modify rfl rfl hrefl fun x _ => ?_))
    unfold Record.postpone Record.SameHandoffs
    split <;> rfl
  | stopped _ _ => exact .inr (Evolves.failures (.of_afterShutdown rfl rfl hrefl hreject))
  | _ => exact .inr fun _ => rfl

/-- A step notes a failed hand-off, or all records keep their numbers. -/
theorem Reachable.step_failures (hs : Reachable s) (hstep : s.step a = some s') :
    (∃ r, Notes s s' r) ∨ ∀ r, s'.failures r = s.failures r := by
  obtain ⟨t, hmove, hcore⟩ := step_move hstep
  have hrecords : s'.records = t.records := congrArg (fun w => w.records) hcore
  have hsame : (∀ r, t.failures r = s.failures r) → ∀ r, s'.failures r = s.failures r := by
    intro h r
    rw [← h r, failures, failures, record?, record?, hrecords]
  rcases hmove.handoffs with hpump | hkept
  · rcases hpump.failures hs with ⟨r, hnotes⟩ | hkept
    · exact .inl ⟨r, hnotes.congr hcore⟩
    · exact .inr (hsame hkept)
  · exact .inr (hsame hkept.failures)

/-! ## The limit -/

theorem step_config (hstep : s.step a = some s') : s'.config = s.config :=
  step_of_move (P := fun s' => s'.config = s.config) (fun _ => rfl)
    (fun hmove => hmove.settings.1) hstep

/-- The number of failed hand-offs is below the limit, or at it when no hand-off is to be tried any
more; `held` is the number of places, or of reasons, for another one to be tried. -/
def Limited (s : System α) (r : Ref) (held : Nat) : Prop :=
  s.failures r < s.handoffLimit ∨
    (s.failures r ≤ s.handoffLimit ∧ (held = 0 ∨ ∃ reason, s.pump = some (.rejecting r reason)))

/-- The number can be counted up where a failed hand-off is to be noted. -/
theorem Limited.countable {held : Nat} {reason : String} (h : Limited s r held)
    (hheld : 0 < held) (hpump : s.pump = some (.failed r reason)) :
    s.failures r < s.handoffLimit := by
  rcases h with hlt | ⟨-, hzero | ⟨_, hrejecting⟩⟩
  · exact hlt
  · omega
  · rw [hpump] at hrejecting
    cases hrejecting

theorem Limited.mono {held held' : Nat} (h : Limited s r held) (hle : held' ≤ held) :
    Limited s r held' := by
  refine h.imp_right fun ⟨hlimit, hnone⟩ => ⟨hlimit, hnone.imp_left fun hzero => ?_⟩
  omega

/-- A step keeps the limit: the record gets into no further place, and is in none once it has been
rejected. -/
theorem Limited.step {held held' : Nat} (h : Limited s r held) (hs : Reachable s)
    (hstep : s.step a = some s')
    (hheld : ∀ reason, s.pump = some (.failed r reason) → 0 < held)
    (hless : held = 0 → held' = 0 ∨ s.failures r = 0)
    (hrejected : (∃ reason, s.pump = some (.rejecting r reason)) →
      (∃ reason, s'.pump = some (.rejecting r reason)) ∨ held' = 0) :
    Limited s' r held' := by
  have hlimit : s'.handoffLimit = s.handoffLimit := by
    rw [handoffLimit, handoffLimit, step_config hstep]
  have hpos : 0 < s.handoffLimit := Nat.le_max_left _ _
  have hkept : s'.failures r = s.failures r → Limited s' r held' := by
    intro hsame
    unfold Limited
    rw [hlimit, hsame]
    rcases h with hlt | ⟨hle, hzero | hrejecting⟩
    · exact .inl hlt
    · rcases hless hzero with hzero' | hnone
      · exact .inr ⟨hle, .inl hzero'⟩
      · exact .inl (hnone ▸ hpos)
    · exact .inr ⟨hle, (hrejected hrejecting).symm⟩
  rcases hs.step_failures hstep with ⟨r', hnotes⟩ | hsame
  · by_cases hr : r = r'
    · subst hr
      obtain ⟨reason, hpump⟩ := hnotes.failed
      have hlt := h.countable (hheld _ hpump) hpump
      have hnoted := hnotes.noted
      rw [Nat.mod_eq_of_lt (Nat.lt_of_le_of_lt hlt s.handoffLimit_lt)] at hnoted
      unfold Limited
      rw [hlimit]
      rcases hnotes.after with hrejecting | ⟨_, -, hbelow⟩
      · exact .inr ⟨by omega, .inr hrejecting⟩
      · exact .inl (Nat.lt_of_lt_of_le hbelow (Nat.le_max_right _ _))
    · exact hkept (hnotes.others r hr)
  · exact hkept (hsame r)

/-- The pump is about to reject a record until it has let go of it. -/
theorem step_rejecting {reason : String} (hstep : s.step a = some s')
    (hpump : s.pump = some (.rejecting r reason)) :
    s'.pump = s.pump ∨ (s'.pump.bind (·.record?) = none ∧ s'.isPending r = false ∧
      s'.queue = s.queue ∧ s'.pool = s.pool ∧ s'.calls = s.calls) := by
  cases ha : a.isPump with
  | false =>
    obtain ⟨t, hmove, hcore⟩ := step_move hstep
    refine .inl ((congrArg (fun w => w.pump) hcore).trans (hmove.pump_kept ha ?_))
    rw [hpump]
    exact Option.some_ne_none _
  | true =>
    cases a with
    | pump choice =>
      have hstep : s.pumpStep choice = some s' := hstep
      rw [pumpStep, hpump] at hstep
      cases hstep
      have hcore := reject_core s r reason
      exact .inr ⟨rfl,
        isPending_of_modify (congrArg (fun w => w.records) hcore) (·.reject_state reason),
        congrArg (fun w => w.queue) hcore, congrArg (fun w => w.pool) hcore,
        congrArg (fun w => w.calls) hcore⟩
    | pumpIdle =>
      have hstep : s.pumpIdle = some s' := hstep
      rw [pumpIdle, hpump] at hstep
      cases hstep
    | pumpFault failure =>
      have hstep : s.pumpFault failure = some s' := hstep
      rw [pumpFault, hpump] at hstep
      cases hstep
    | _ => cases ha

/-! ## Runs -/

theorem Sole.limited_step (hsole : Sole s r) (hs : Reachable s) (hstep : s.step a = some s')
    (hlimited : Limited s r (s.places r + s.arriving r)) :
    Limited s' r (s'.places r + s'.arriving r) := by
  have hplaces : s.places r = s.queue.holds r + s.pumpHolds r + s.pool.holds r := rfl
  refine hlimited.step hs hstep (fun reason hpump => ?_) (fun hzero => ?_) ?_
  · have hhand := pumpHolds_of_record hpump rfl r
    rw [beq_self_eq_true, Bool.toNat_true] at hhand
    omega
  · cases hx : s.record? r with
    | none => exact .inr (failures_of_none hx)
    | some x =>
      have hknown : r < s.records.length := (List.getElem?_eq_some_iff.mp hx).1
      refine .inl (step_of_move (P := fun s' => s'.places r + s'.arriving r = 0)
        (fun _ => rfl) (fun hmove => ?_) hstep)
      rcases (hmove.passes hs.numbered hs.attended r).bounded with
        hbound | ⟨-, ⟨hr, -⟩ | hdoubles⟩
      · omega
      · exact absurd hr (Nat.ne_of_lt hknown)
      · have hheld := hdoubles.held
        omega
  · rintro ⟨reason, hpump⟩
    have hsole : s.places r + s.arriving r ≤ 1 := hsole
    rcases step_rejecting hstep hpump with hsame | ⟨hnone, -, hqueue, hpool, hcalls⟩
    · exact .inl ⟨reason, hsame.trans hpump⟩
    · right
      have hreleased := places_released (r := r) (n := 0) hpump rfl hnone hqueue
        (congrArg (fun pool => pool.holds r) hpool)
      rw [beq_self_eq_true, Bool.toNat_true] at hreleased
      have harriving : s'.arriving r = s.arriving r := by
        rw [arriving, arriving, owing, owing, hcalls]
      omega

/-- As long as no factory lets a panic through, the number of failed hand-offs of a record stays
below the limit, except that it is at the limit when the record is to be rejected or is gone. -/
theorem Steady.exec_limited {actions : List (Action α)} (h : Steady s)
    (hlimited : ∀ r, Limited s r (s.places r + s.arriving r))
    (hactions : ∀ a ∈ actions, a.Contained) (hrun : s.exec actions = some t) (r : Ref) :
    Limited t r (t.places r + t.arriving r) := by
  have hkept : Steady t ∧ Limited t r (t.places r + t.arriving r) := by
    refine exec_keeps (P := fun s => Steady s ∧ Limited s r (s.places r + s.arriving r)) ?_
      ⟨h, hlimited r⟩ hrun
    rintro s s' a ha ⟨h, hlimited⟩ hstep
    exact ⟨h.step (hactions a ha) hstep, (h.sole r).limited_step h.reachable hstep hlimited⟩
  exact hkept.2

end System

/-! ## Records that run once -/

/-- The pump has found that the record waits, and a hand-off of it may come to fail. -/
def PumpPhase.tries (r : Ref) : PumpPhase → Bool
  | checked r' _ | pausing r' _ | handing r' | failed r' _ => r' == r
  | _ => false

namespace System

variable {α : Type} {s s' t : System α} {a : Action α} {r : Ref}

theorem Move.waited_once {x : Record α} (h : Move s a t) (hx : s.record? r = some x)
    (honce : x.repeats = false) (hpending : t.isPending r = true) : s.isPending r = true := by
  have hevolves : Evolves (fun x y : Record α => x.repeats = false → y.state = .pending →
      x.state = .pending) s t := by
    have hcompletes : ∀ {x y : Record α} {after : AfterRun}, Record.Completes x y after →
        x.repeats = false → y.state = .pending → x.state = .pending := by
      intro x y after hcompletes honce hstate
      rcases hcompletes.state with ⟨-, hsame, -⟩ | ⟨-, hfinal, -⟩ | ⟨-, -, hrepeats, -⟩
      · exact hsame.symm.trans hstate
      · rw [Record.isFinal, hstate] at hfinal
        cases hfinal
      · rw [hrepeats] at honce
        cases honce
    have hsettles : ∀ {x y : Record α}, Record.Settles x y → x.repeats = false →
        y.state = .pending → x.state = .pending := by
      intro x y hsettles _ hstate
      rcases hsettles.state with hsame | ⟨hbefore, -⟩ | ⟨-, hcancelled⟩
      · exact hsame.symm.trans hstate
      · exact hbefore
      · rw [hcancelled] at hstate
        cases hstate
    refine h.evolves hsettles fun hworker => ?_
    cases hworker with
    | began _ _ _ =>
      exact .of_modify rfl rfl (fun _ _ h => h) fun x _ _ hstate => by cases hstate
    | entered _ _ =>
      exact .of_modify rfl rfl (fun _ _ h => h) fun x _ _ hstate =>
        x.enterBody_enters.state.symm.trans hstate
    | spent _ _ =>
      refine .of_modify rfl rfl (fun _ _ h => h) fun x _ honce hstate => ?_
      have henters := x.enterBody_enters
      refine henters.state.symm.trans
        (hcompletes (x.enterBody.1.complete_completes _ _ _) ?_ hstate)
      rw [Record.repeats, henters.recurrence]
      exact honce
    | finished _ _ =>
      exact .of_modify rfl rfl (fun _ _ h => h) fun x _ => hcompletes (x.complete_completes _ _ _)
    | rescheduled _ _ _ =>
      exact .of_modify rfl rfl (fun _ _ h => h) fun x _ => hcompletes (x.complete_completes _ _ _)
    | gaveUp _ =>
      exact .of_modify rfl rfl (fun _ _ h => h) fun x _ => hsettles x.giveUp_settles
    | rejected _ =>
      exact .of_modify rfl rfl (fun _ _ h => h) fun x _ => hsettles (x.reject_settles _)
    | _ => exact .of_records rfl rfl fun _ _ h => h
  obtain ⟨y, hy, hwaited⟩ := hevolves.kept hx
  obtain ⟨y', hy', hstate⟩ := isPending_iff.mp hpending
  obtain rfl : y = y' := Option.some.inj (hy.symm.trans hy')
  exact isPending_iff.mpr ⟨x, hx, hwaited honce hstate⟩

theorem PumpPhase.record_of_tries {phase : PumpPhase} (h : phase.tries r = true) :
    phase.record? = some r := by
  cases phase <;> first | exact congrArg some (eq_of_beq h) | cases h

theorem GoesOn.tries {phase next : PumpPhase} (h : GoesOn s phase next)
    (hnext : next.tries r = true) : phase.tries r = true ∨ s.isPending r = true := by
  cases h with
  | checked hpending =>
    obtain rfl := eq_of_beq hnext
    exact .inr hpending
  | failed hpending =>
    obtain rfl := eq_of_beq hnext
    exact .inr hpending
  | @decided r' early =>
    have hrecord := (s.pumpDecide_record r' early).symm.trans (PumpPhase.record_of_tries hnext)
    exact .inl (beq_iff_eq.mpr (Option.some.inj hrecord))
  | resumed _ => exact .inl hnext
  | faulted failure _ _ => cases hnext

theorem PumpMove.tries (h : PumpMove s t) (hnext : t.pump.any (·.tries r) = true) :
    s.pump.any (·.tries r) = true ∨ s.isPending r = true := by
  cases h with
  | wentOn hpump hgoes =>
    rw [hpump]
    exact hgoes.tries hnext
  | refused choice hpump _ =>
    rw [hpump]
    exact .inl hnext
  | noted hpump hafter => cases hafter <;> cases hnext
  | stopped _ hafter => rcases hafter with rfl | ⟨_, rfl⟩ <;> cases hnext
  | _ => cases hnext

/-- The reasons for another hand-off of the record to fail: it waits, or the pump has found that it
does. -/
def triable (s : System α) (r : Ref) : Nat :=
  (s.isPending r).toNat + (s.pump.any (·.tries r)).toNat

theorem Move.triable {x : Record α} (h : Move s a t) (hx : s.record? r = some x)
    (honce : x.repeats = false) (hnone : s.triable r = 0) : t.triable r = 0 := by
  obtain ⟨hpending, htries⟩ := Nat.add_eq_zero_iff.mp hnone
  refine Nat.add_eq_zero_iff.mpr ⟨?_, ?_⟩
  · refine Bool.toNat_eq_zero.mpr (eq_false_of_ne_true fun hafter => ?_)
    rw [h.waited_once hx honce hafter] at hpending
    cases hpending
  · refine Bool.toNat_eq_zero.mpr (eq_false_of_ne_true fun hafter => ?_)
    obtain ⟨phase, hpump, hphase⟩ := (Option.any_eq_true _ _).mp hafter
    rcases h.pump_from hpump (by rintro rfl; cases hphase) with hsame | hmove
    · rw [hsame, Option.any_some, hphase] at htries
      cases htries
    · rcases hmove.tries hafter with hbefore | hwaits
      · rw [hbefore] at htries
        cases htries
      · rw [hwaits] at hpending
        cases hpending

/-- The number of failed hand-offs of a record that runs once stays below the limit, except that it
is at the limit when the record is rejected. -/
theorem Reachable.limited_once (h : Reachable s) (honce : s.repeats r = false) :
    Limited s r (s.triable r) := by
  induction h with
  | initial host name config clockEnd now => exact .inl (Nat.le_max_left _ _)
  | @step s s' a hs hstep ih =>
    have honce' := step_once hstep honce
    refine (ih honce').step hs hstep (fun reason hpump => ?_) (fun hzero => ?_) ?_
    · rw [triable, hpump, Option.any_some, PumpPhase.tries, beq_self_eq_true]
      exact Nat.lt_of_lt_of_le Nat.one_pos (Nat.le_add_left _ _)
    · cases hx : s.record? r with
      | none => exact .inr (failures_of_none hx)
      | some x =>
        rw [repeats_of_record hx] at honce'
        exact .inl (step_of_move (P := fun s' => s'.triable r = 0) (fun _ => rfl)
          (fun hmove => hmove.triable hx honce' hzero) hstep)
    · rintro ⟨reason, hpump⟩
      rcases step_rejecting hstep hpump with hsame | ⟨hnone, hrejected, -⟩
      · exact .inl ⟨reason, hsame.trans hpump⟩
      · refine .inr (Nat.add_eq_zero_iff.mpr ⟨?_, ?_⟩)
        · rw [hrejected, Bool.toNat_false]
        · refine Bool.toNat_eq_zero.mpr (eq_false_of_ne_true fun hafter => ?_)
          obtain ⟨phase, hnext, hphase⟩ := (Option.any_eq_true _ _).mp hafter
          rw [hnext, Option.bind_some, PumpPhase.record_of_tries hphase] at hnone
          cases hnone

/-- The number of failed hand-offs of a record that runs once does not run over. -/
theorem Notes.counted_once (h : Notes s t r) (hs : Reachable s) (honce : s.repeats r = false) :
    s.failures r ≤ t.failures r := by
  obtain ⟨reason, hpump⟩ := h.failed
  have hpos : 0 < s.triable r := by
    rw [triable, hpump, Option.any_some, PumpPhase.tries, beq_self_eq_true]
    exact Nat.lt_of_lt_of_le Nat.one_pos (Nat.le_add_left _ _)
  have hlt := (hs.limited_once honce).countable hpos hpump
  have hnoted := h.noted
  rw [Nat.mod_eq_of_lt (Nat.lt_of_le_of_lt hlt s.handoffLimit_lt)] at hnoted
  omega

theorem Reachable.step_failures_once (hs : Reachable s) (hstep : s.step a = some s')
    (honce : s.repeats r = false) : s.failures r ≤ s'.failures r := by
  rcases hs.step_failures hstep with ⟨r', hnotes⟩ | hsame
  · by_cases hr : r = r'
    · subst hr
      exact hnotes.counted_once hs honce
    · exact Nat.le_of_eq (hnotes.others r hr).symm
  · exact Nat.le_of_eq (hsame r).symm

end System

end TaskScheduler
