import TaskScheduler.Proofs.Pool.Coherence
import TaskScheduler.Proofs.Record
import TaskScheduler.Proofs.Run

/-
  What moves do to records and to the pool, taken each on its own.

  `Evolves R s t`: from `s` to `t` every record has changed as `R` allows, and new ones wait to
  run. `Move.keeps`: no move changes the number or the recurrence of a record, or a terminal state.
  `PumpMove.settles`, `CallMove.settles`: the pump and the calls only ever give records up.
  `Move.pool_act`: every move is, for the pool, one of its own operations or nothing, so what is
  known of pools on their own holds in the service (`Reachable.pool_coherent`). `CallMove.setup`,
  `WorkerMove.setup`, `PumpMove.setup`: the core size and the factory are left to the owner.
-/
namespace TaskScheduler.System

variable {α : Type} {s t : System α} {a : Action α} {R R' : Record α → Record α → Prop}

/-! ## Records -/

/-- A record that has just been made under the next number. -/
structure Fresh (s : System α) (r : Ref) (x : Record α) : Prop where
  state : x.state = .pending
  bodySpent : x.bodySpent = false
  unfailed : x.failedHandoffs = 0
  id : x.id = s.nextId
  place : r = s.records.length

/-- Every record has changed as `R` allows, and new ones wait to run. -/
structure Evolves (R : Record α → Record α → Prop) (s t : System α) : Prop where
  kept : ∀ {r x}, s.record? r = some x → ∃ y, t.record? r = some y ∧ R x y
  made : ∀ {r y}, t.record? r = some y → s.record? r = none → s.Fresh r y
  counted : t.nextId + s.records.length = s.nextId + t.records.length

theorem Evolves.mono (h : Evolves R s t) (hR : ∀ {x y}, R x y → R' x y) : Evolves R' s t where
  kept hx := by
    obtain ⟨y, hy, hxy⟩ := h.kept hx
    exact ⟨y, hy, hR hxy⟩
  made := h.made
  counted := h.counted

/-- The records are the same. -/
theorem Evolves.of_records (h : t.records = s.records) (hn : t.nextId = s.nextId)
    (hR : ∀ x, R x x) : Evolves R s t where
  kept hx := by
    refine ⟨_, ?_, hR _⟩
    rw [record?, h]
    exact hx
  made hy hx := by
    rw [record?, h] at hy
    rw [record?, hy] at hx
    cases hx
  counted := by rw [h, hn]

/-- One record has changed. -/
theorem Evolves.of_modify {r : Ref} {g : Record α → Record α}
    (h : t.records = s.records.modify r g) (hn : t.nextId = s.nextId) (hR : ∀ x, R x x)
    (hg : ∀ x, s.record? r = some x → R x (g x)) : Evolves R s t where
  kept := by
    intro r' x hx
    by_cases hr : r = r'
    · refine ⟨g x, ?_, hg x (hr ▸ hx)⟩
      rw [record?, h, record?_modify, hx, Option.map_some, if_pos hr]
    · refine ⟨x, ?_, hR x⟩
      rw [record?, h, record?_modify, hx, Option.map_some, if_neg hr]
  made := by
    intro r' y hy hx
    rw [record?, h, record?_modify, hx] at hy
    cases hy
  counted := by rw [h, hn, List.length_modify]

/-- A record has been added. -/
theorem Evolves.of_append {x : Record α} (h : t.records = s.records ++ [x])
    (hn : t.nextId = s.nextId + 1) (hR : ∀ x, R x x) (hx : Fresh s s.records.length x) :
    Evolves R s t where
  kept := by
    intro r y hy
    refine ⟨y, ?_, hR y⟩
    obtain ⟨hlt, -⟩ := List.getElem?_eq_some_iff.mp hy
    rw [record?, h, List.getElem?_append_left hlt]
    exact hy
  made := by
    intro (r : Nat) y hy hnone
    have hle := List.getElem?_eq_none_iff.mp hnone
    rw [record?, h, List.getElem?_append_right hle] at hy
    obtain ⟨hlt, -⟩ := List.getElem?_eq_some_iff.mp hy
    rw [List.length_singleton] at hlt
    obtain rfl : r = s.records.length := by omega
    rw [Nat.sub_self, List.getElem?_cons_zero] at hy
    cases hy
    exact hx
  counted := by
    rw [h, hn, List.length_append, List.length_singleton]
    omega

/-- Rejecting records one after the other, each of them is rejected. -/
theorem rejectAll_record {records : List (Record α)} {r : Ref} {x : Record α} (reason : String)
    (rs : List Ref) (h : records[r]? = some x) :
    (rejectAll records reason rs)[r]? = some (if r ∈ rs then (x.reject reason).1 else x) := by
  induction rs generalizing records x with
  | nil => exact h
  | cons r' rest ih =>
    by_cases hr : r' = r
    · have hfirst : (records.modify r' fun record => (record.reject reason).1)[r]? =
          some (x.reject reason).1 := by
        rw [hr, List.getElem?_modify_eq, h]
        rfl
      have hrest : (rejectAll _ reason rest)[r]? = _ := ih hfirst
      rw [Record.reject_reject, ite_self] at hrest
      rw [if_pos (hr ▸ List.mem_cons_self)]
      exact hrest
    · have hfirst : (records.modify r' fun record => (record.reject reason).1)[r]? = some x := by
        rw [List.getElem?_modify_ne _ _ hr, h]
      have hrest : (rejectAll records reason (r' :: rest))[r]? =
          some (if r ∈ rest then (x.reject reason).1 else x) := ih hfirst
      simpa only [List.mem_cons, Ne.symm hr, false_or] using hrest

theorem rejectAll_length (records : List (Record α)) (reason : String) (rs : List Ref) :
    (rejectAll records reason rs).length = records.length := by
  induction rs generalizing records with
  | nil => rfl
  | cons r rest ih => exact (ih _).trans (List.length_modify _ _ _)

/-- Closing the pool changes a record as rejecting it does, or not at all. -/
theorem Evolves.of_afterShutdown (h : t.records = s.afterShutdown) (hn : t.nextId = s.nextId)
    (hR : ∀ x, R x x) (hreject : ∀ x reason, R x (x.reject reason).1) : Evolves R s t := by
  unfold afterShutdown at h
  split at h
  next error stranded _ =>
    constructor
    · intro r x hx
      have hy := rejectAll_record (strandedReason error) stranded hx
      rw [← h] at hy
      refine ⟨_, hy, ?_⟩
      split
      · exact hreject x _
      · exact hR x
    · intro r y hy hx
      obtain ⟨hlt, -⟩ := List.getElem?_eq_some_iff.mp hy
      rw [h, rejectAll_length] at hlt
      have hle := List.getElem?_eq_none_iff.mp hx
      omega
    · rw [h, hn, rejectAll_length]
  next => exact .of_records h hn hR

/-- A record that a closing pool could start no worker for does not wait any more. -/
theorem afterShutdown_rejects {error : PoolError} {stranded : List Ref} {r : Ref}
    (h : s.pool.shutdown.answer = .ok (some (error, stranded))) (hr : r ∈ stranded)
    (ht : t.records = s.afterShutdown) : t.isPending r = false := by
  have hrecords : t.records = rejectAll s.records (strandedReason error) stranded := by
    rw [ht, afterShutdown, h]
  cases hp : t.isPending r with
  | false => rfl
  | true =>
    obtain ⟨y, hy, hstate⟩ := isPending_iff.mp hp
    rw [record?, hrecords] at hy
    cases hx : s.records[r]? with
    | none =>
      obtain ⟨hlt, -⟩ := List.getElem?_eq_some_iff.mp hy
      rw [rejectAll_length] at hlt
      have hle := List.getElem?_eq_none_iff.mp hx
      exact absurd hlt (Nat.not_lt.mpr hle)
    | some x =>
      rw [rejectAll_record (strandedReason error) stranded hx, if_pos hr] at hy
      cases hy
      exact absurd hstate (x.reject_state _)

theorem PumpMove.settles (h : PumpMove s t) : Evolves Record.Settles s t := by
  cases h with
  | gaveUp _ => exact .of_modify rfl rfl .refl fun x _ => x.giveUp_settles
  | noted _ _ => exact .of_modify rfl rfl .refl fun x _ => x.noteHandoffFailure_settles
  | rejected _ => exact .of_modify rfl rfl .refl fun x _ => x.reject_settles _
  | postponed _ => exact .of_modify rfl rfl .refl fun x _ => x.postpone_settles _
  | stopped _ => exact .of_afterShutdown rfl rfl .refl Record.reject_settles
  | _ => exact .of_records rfl rfl .refl

theorem CallMove.settles {duty duty' : Duty} (h : CallMove s duty t duty') :
    Evolves Record.Settles s t := by
  cases h with
  | created recurrence trigger => exact .of_append rfl rfl .refl ⟨rfl, rfl, rfl, rfl, rfl⟩
  | asked mayInterrupt _ => exact .of_modify rfl rfl .refl fun x _ => x.cancel_settles mayInterrupt
  | collected => exact .of_modify rfl rfl .refl fun x _ => x.collectOutcome_settles
  | _ => exact .of_records rfl rfl .refl

theorem WorkerMove.keeps (h : WorkerMove s a t) : Evolves Record.Keeps s t := by
  cases h with
  | began _ hrecord hstate =>
    refine .of_modify rfl rfl .refl fun x hx => ⟨rfl, rfl, fun hfinal => ?_⟩
    rw [hrecord] at hx
    cases hx
    rw [Record.isFinal, hstate] at hfinal
    cases hfinal
  | entered _ _ => exact .of_modify rfl rfl .refl fun x _ => x.enterBody_enters.keeps
  | spent _ _ =>
    exact .of_modify rfl rfl .refl fun x _ =>
      x.enterBody_enters.keeps.trans (x.enterBody.1.complete_completes _ _ _).keeps
  | finished _ _ =>
    exact .of_modify rfl rfl .refl fun x _ => (x.complete_completes _ _ _).keeps
  | rescheduled _ _ _ =>
    exact .of_modify rfl rfl .refl fun x _ => (x.complete_completes _ _ _).keeps
  | gaveUp _ => exact .of_modify rfl rfl .refl fun x _ => x.giveUp_settles.keeps
  | rejected _ => exact .of_modify rfl rfl .refl fun x _ => (x.reject_settles _).keeps
  | _ => exact .of_records rfl rfl .refl

/-- What holds of records that are given up, and of what a worker does to them, holds of every
move. -/
theorem Move.evolves (h : Move s a t) (hsettles : ∀ {x y}, Record.Settles x y → R x y)
    (hworker : WorkerMove s a t → Evolves R s t) : Evolves R s t := by
  cases h with
  | begun hmove =>
    have h := hmove.settles.mono hsettles
    exact ⟨h.kept, h.made, h.counted⟩
  | called _ hmove | callRefused _ hmove =>
    have h := hmove.settles.mono hsettles
    exact ⟨h.kept, h.made, h.counted⟩
  | pumped hmove | pumpIdled hmove | pumpFaulted hmove => exact hmove.settles.mono hsettles
  | worked hmove => exact hworker hmove
  | _ => exact .of_records rfl rfl fun x => hsettles (.refl x)

theorem Move.keeps (h : Move s a t) : Evolves Record.Keeps s t :=
  h.evolves Record.Settles.keeps WorkerMove.keeps

theorem step_record {s' : System α} {r : Ref} {x : Record α} (hstep : s.step a = some s')
    (hx : s.record? r = some x) : ∃ y, s'.record? r = some y ∧ Record.Keeps x y :=
  step_of_move (P := fun s' => ∃ y, s'.record? r = some y ∧ Record.Keeps x y) (fun _ => rfl)
    (fun hmove => hmove.keeps.kept hx) hstep

/-- What no run changes of a record. -/
theorem exec_record {r : Ref} {x : Record α} {actions : List (Action α)}
    (hrun : s.exec actions = some t) (hx : s.record? r = some x) :
    ∃ y, t.record? r = some y ∧ Record.Keeps x y := by
  refine exec_keeps (P := fun s => ∃ y, s.record? r = some y ∧ Record.Keeps x y) ?_
    ⟨x, hx, .refl x⟩ hrun
  rintro s s' a - ⟨y, hy, hkeeps⟩ hstep
  obtain ⟨z, hz, hkeeps'⟩ := step_record hstep hy
  exact ⟨z, hz, hkeeps.trans hkeeps'⟩

theorem repeats_of_record {r : Ref} {x : Record α} (hx : s.record? r = some x) :
    s.repeats r = x.repeats := by
  rw [repeats, hx, Option.any_some]

/-- A record that there is repeats after a run if and only if it did before. -/
theorem exec_repeats {r : Ref} {x : Record α} {actions : List (Action α)}
    (hrun : s.exec actions = some t) (hx : s.record? r = some x) : t.repeats r = s.repeats r := by
  obtain ⟨y, hy, hkeeps⟩ := exec_record hrun hx
  rw [repeats_of_record hy, repeats_of_record hx, hkeeps.repeats]

theorem step_repeats_eq {s' : System α} {r : Ref} {x : Record α} (hstep : s.step a = some s')
    (hx : s.record? r = some x) : s'.repeats r = s.repeats r := by
  obtain ⟨y, hy, hkeeps⟩ := step_record hstep hx
  rw [repeats_of_record hy, repeats_of_record hx, hkeeps.repeats]

theorem Evolves.length_le (h : Evolves R s t) : s.records.length ≤ t.records.length := by
  refine Nat.le_of_not_lt fun hlt => ?_
  obtain ⟨y, hy, -⟩ := h.kept (List.getElem?_eq_getElem hlt)
  rw [record?, List.getElem?_eq_none (Nat.le_refl _)] at hy
  cases hy

theorem Evolves.isFinal (h : Evolves Record.Keeps s t) {r : Ref} (hfinal : s.isFinal r = true) :
    t.isFinal r = true := by
  obtain ⟨x, hr, hx⟩ := isFinal_iff.mp hfinal
  obtain ⟨y, hy, hkeeps⟩ := h.kept hr
  refine isFinal_iff.mpr ⟨y, hy, ?_⟩
  rw [Record.isFinal, hkeeps.final hx]
  exact hx

/-- What the state of a record comes to that has at most been given up. -/
theorem Evolves.state? (h : Evolves Record.Settles s t) (r : Ref) :
    t.state? r = s.state? r ∨ (s.state? r = none ∧ t.state? r = some .pending) ∨
      (s.state? r = some .pending ∧ (t.state? r = some .cancelled ∨ t.state? r = some .failed)) ∨
      (s.state? r = some .running ∧ t.state? r = some .cancelled) := by
  simp only [System.state?]
  cases hx : s.record? r with
  | none =>
    cases hy : t.record? r with
    | none => exact .inl rfl
    | some y => exact .inr (.inl ⟨rfl, congrArg some (h.made hy hx).state⟩)
  | some x =>
    obtain ⟨y, hy, hsettles⟩ := h.kept hx
    rw [hy]
    simp only [Option.map_some, Option.some.injEq, reduceCtorEq, false_and, false_or]
    exact hsettles.state

/-! ## The pool -/

/-- For the pool it is a call, or nothing. -/
def CallsPool (s t : System α) : Prop :=
  t.pool = s.pool ∨ ∃ op, Pool.Op.isCall op = true ∧ s.pool.act op = some t.pool

theorem CallsPool.calm (h : CallsPool s t) : Pool.Calm s.pool t.pool := by
  rcases h with hsame | ⟨op, hop, hact⟩
  · exact .of_workers (by rw [hsame])
  · exact Pool.act_calm hop hact

theorem PumpMove.callsPool (h : PumpMove s t) : CallsPool s t := by
  cases h with
  | handedOver choice _ _ => exact .inr ⟨.execute _ choice, rfl, rfl⟩
  | refused choice _ _ => exact .inr ⟨.execute _ choice, rfl, rfl⟩
  | unwound choice _ _ => exact .inr ⟨.execute _ choice, rfl, rfl⟩
  | withdrew _ => exact .inr ⟨.withdraw _, rfl, rfl⟩
  | stopped _ _ => exact .inr ⟨.shutdown, rfl, rfl⟩
  | _ => exact .inl rfl

theorem CallMove.callsPool {duty duty' : Duty} (h : CallMove s duty t duty') : CallsPool s t := by
  cases h with
  | executed choice _ => exact .inr ⟨.execute _ choice, rfl, rfl⟩
  | refused choice _ => exact .inr ⟨.execute _ choice, rfl, rfl⟩
  | unwound choice _ => exact .inr ⟨.execute _ choice, rfl, rfl⟩
  | _ => exact .inl rfl

theorem OwnerMove.callsPool (h : OwnerMove s t) : CallsPool s t := by
  cases h with
  | resized size => exact .inr ⟨.setCoreSize size, rfl, rfl⟩
  | prestarted count => exact .inr ⟨.prestart count, rfl, rfl⟩
  | refactored factory => exact .inr ⟨.setFactory factory, rfl, rfl⟩

theorem WorkerMove.pool_act (h : WorkerMove s a t) :
    ∃ op, Pool.Op.isCall op = false ∧ s.pool.act op = some t.pool := by
  cases h with
  | looked hlook => exact ⟨.look _, rfl, hlook⟩
  | expired hexpire => exact ⟨.expire _, rfl, hexpire⟩
  | counted hcount => exact ⟨.countRun _, rfl, hcount⟩
  | requeued hphase _ =>
    refine ⟨_, rfl, Pool.act_proceed hphase rfl ?_⟩
    split <;> rfl
  | began hphase _ _ => exact ⟨_, rfl, Pool.act_proceed hphase rfl rfl⟩
  | passedOver hphase _ => exact ⟨_, rfl, Pool.act_proceed hphase rfl rfl⟩
  | entered hphase _ => exact ⟨_, rfl, Pool.act_proceed hphase rfl rfl⟩
  | spent hphase _ => exact ⟨_, rfl, Pool.act_proceed hphase rfl rfl⟩
  | finished hphase _ => exact ⟨_, rfl, Pool.act_proceed hphase rfl rfl⟩
  | rescheduled hphase _ _ => exact ⟨_, rfl, Pool.act_proceed hphase rfl rfl⟩
  | refused hphase _ => exact ⟨_, rfl, Pool.act_proceed hphase rfl rfl⟩
  | gaveUp hphase => exact ⟨_, rfl, Pool.act_proceed hphase rfl rfl⟩
  | launched hphase _ => exact ⟨_, rfl, Pool.act_proceed hphase rfl rfl⟩
  | unlaunched hphase _ => exact ⟨_, rfl, Pool.act_proceed hphase rfl rfl⟩
  | retracted hphase => exact ⟨_, rfl, Pool.act_proceed hphase rfl rfl⟩
  | rejected hphase => exact ⟨_, rfl, Pool.act_proceed hphase rfl rfl⟩

/-- Calls leave the setup of the pool alone. -/
theorem CallMove.setup {duty duty' : Duty} (h : CallMove s duty t duty') :
    Pool.SameSetup s.pool t.pool := by
  cases h with
  | executed choice _ => exact Pool.execute_setup ..
  | refused choice _ => exact Pool.execute_setup ..
  | unwound choice _ => exact Pool.execute_setup ..
  | _ => exact ⟨rfl, rfl, rfl⟩

theorem WorkerMove.setup (h : WorkerMove s a t) : Pool.SameSetup s.pool t.pool := by
  obtain ⟨op, hop, hact⟩ := h.pool_act
  have hsetup := Pool.act_setup op hact
  constructor
  · exact hsetup.coreSize fun size heq => by
      subst heq
      cases hop
  · exact hsetup.start fun factory heq => by
      subst heq
      cases hop
  · exact hsetup.closing fun heq => by
      subst heq
      cases hop

/-- The pump may close the pool, and leaves the rest of its setup alone. -/
theorem PumpMove.setup (h : PumpMove s t) :
    t.pool.coreSize = s.pool.coreSize ∧ t.pool.factory.start = s.pool.factory.start := by
  have hsame : Pool.SameSetup s.pool t.pool →
      t.pool.coreSize = s.pool.coreSize ∧ t.pool.factory.start = s.pool.factory.start :=
    fun hsetup => ⟨hsetup.coreSize, hsetup.start⟩
  cases h with
  | handedOver choice _ _ => exact hsame (Pool.execute_setup ..)
  | refused choice _ _ => exact hsame (Pool.execute_setup ..)
  | unwound choice _ _ => exact hsame (Pool.execute_setup ..)
  | @withdrew r failure _ =>
    have hsetup := Pool.act_setup (p := s.pool) (.withdraw r) rfl
    exact ⟨hsetup.coreSize nofun, hsetup.start nofun⟩
  | stopped _ _ =>
    have hsetup := Pool.shutdown_setup s.pool
    exact ⟨hsetup.coreSize, hsetup.start⟩
  | _ => exact ⟨rfl, rfl⟩

/-- For the pool every move is one of its own operations, or nothing. -/
theorem Move.pool_act (h : Move s a t) :
    t.pool = s.pool ∨ ∃ op, s.pool.act op = some t.pool := by
  have of_calls : ∀ {u : System α}, CallsPool s u →
      u.pool = s.pool ∨ ∃ op, s.pool.act op = some u.pool := by
    rintro u (hsame | ⟨op, -, hact⟩)
    · exact .inl hsame
    · exact .inr ⟨op, hact⟩
  rcases h.kinds with ⟨u, _, _, hcall, -, ht⟩ | hpump | hworker | howner | ⟨now, rfl⟩
  · rw [ht]
    exact of_calls hcall.callsPool
  · exact of_calls hpump.callsPool
  · obtain ⟨op, -, hact⟩ := hworker.pool_act
    exact .inr ⟨op, hact⟩
  · exact of_calls howner.callsPool
  · exact .inl rfl

/-- The pool of a reachable service is one that the pool can reach on its own. -/
theorem Reachable.pool (h : Reachable s) : ∃ failed, Pool.Reachable s.pool failed := by
  refine h.of_moves (P := fun s => ∃ failed, Pool.Reachable s.pool failed) (fun _ => rfl) ?_ ?_
  · intro host name config clockEnd now
    exact ⟨0, .initial host config.pool⟩
  · intro s t a _ ⟨failed, hpool⟩ hmove
    rcases hmove.pool_act with hsame | ⟨op, hact⟩
    · exact ⟨failed, hsame ▸ hpool⟩
    · exact ⟨_, .act op hpool hact⟩

theorem Reachable.pool_coherent (h : Reachable s) : s.pool.Coherent := by
  obtain ⟨failed, hpool⟩ := h.pool
  exact hpool.coherent

end TaskScheduler.System
