import TaskScheduler.Proofs.Evolution

/-
  Records and the workers that run them.

  `bodies s r` counts the workers that have moved the record to `running` and are not yet through
  with its body. `Attended`: a record that waits has none, and one that runs has exactly one.
  `Reachable.attended`: so it is in every reachable state, whatever the factory does.
-/
namespace TaskScheduler

/-- The record that a worker has moved to `running` and is not yet through with. -/
def WorkerPhase.body? : WorkerPhase → Option Ref
  | begun r | running r => some r
  | _ => none

namespace System

variable {α : Type} {s t : System α} {a : Action α} {r : Ref}

/-- The number of workers at the body of a record. -/
def bodies (s : System α) (r : Ref) : Nat := s.pool.tally fun phase => phase.body? == some r

/-- The state of the record agrees with the workers at its body. -/
structure Attended (s : System α) (r : Ref) : Prop where
  one : s.bodies r ≤ 1
  running : s.state? r = some .running → s.bodies r = 1
  waiting : s.state? r = some .pending → s.bodies r = 0
  absent : s.state? r = none → s.bodies r = 0

theorem bodies_calm (h : CallsPool s t) (r : Ref) : t.bodies r = s.bodies r :=
  h.calm _ rfl rfl rfl

/-- One worker goes on. -/
theorem bodies_setPhase {i : Nat} {old new : WorkerPhase} (h : s.pool.phase? i = some old)
    (ht : t.pool = s.pool.setPhase i new) (r : Ref) :
    t.bodies r + (old.body? == some r).toNat = s.bodies r + (new.body? == some r).toNat := by
  rw [bodies, ht]
  exact Pool.tally_setPhase h new _

theorem bodies_same {i : Nat} {old new : WorkerPhase} (h : s.pool.phase? i = some old)
    (ht : t.pool = s.pool.setPhase i new) (hbody : new.body? = old.body?) :
    t.bodies r = s.bodies r := by
  have hbodies := bodies_setPhase h ht r
  rw [hbody] at hbodies
  exact Nat.add_right_cancel hbodies

/-- A worker that comes back to the run queue is at no body. -/
theorem bodies_looked {i : Nat} {pool : Pool} (h : s.pool.look i = some pool) (r : Ref) :
    ({ s with pool } : System α).bodies r = s.bodies r := by
  obtain ⟨old, new, hback, htally, hnew⟩ := Pool.look_tally h
  have hold : old.body? = none := by cases old <;> first | rfl | cases hback
  have hnone : new.body? = none := by
    rcases hnew with ⟨-, rfl | rfl⟩ | ⟨r, -, rfl⟩ <;> rfl
  have hbodies := htally fun phase => phase.body? == some r
  rw [hold, hnone] at hbodies
  exact hbodies

theorem Attended.congr (h : Attended s r) (hstate : t.state? r = s.state? r)
    (hbodies : t.bodies r = s.bodies r) : Attended t r := by
  constructor
  · rw [hbodies]
    exact h.one
  · rw [hstate, hbodies]
    exact h.running
  · rw [hstate, hbodies]
    exact h.waiting
  · rw [hstate, hbodies]
    exact h.absent

/-- A record that has been taken back or cancelled, with as many workers at its body. -/
theorem Attended.of_final {state : RecordState} (hstate : t.state? r = some state)
    (hfinal : state.isFinal = true) (hbodies : t.bodies r ≤ 1) : Attended t r := by
  have hnot : ∀ {state'}, t.state? r = some state' → state'.isFinal = true := by
    intro state' hstate'
    rw [hstate] at hstate'
    cases hstate'
    exact hfinal
  constructor
  · exact hbodies
  · intro hrunning
    cases hnot hrunning
  · intro hpending
    cases hnot hpending
  · intro hnone
    rw [hstate] at hnone
    cases hnone

/-- A record that nobody is at the body of, and that does not run. -/
theorem Attended.of_zero (hstate : t.state? r ≠ some .running) (hbodies : t.bodies r = 0) :
    Attended t r := by
  constructor
  · omega
  · intro hrunning
    exact absurd hrunning hstate
  · intro _
    exact hbodies
  · intro _
    exact hbodies

/-- A record that a worker is at the body of is there, and does not wait. -/
theorem Attended.record {i : Nat} {phase : WorkerPhase} (h : Attended s r)
    (hphase : s.pool.phase? i = some phase) (hbody : phase.body? = some r) :
    ∃ x, s.record? r = some x ∧ x.state ≠ .pending := by
  have hpos : 0 < s.bodies r := Pool.tally_pos hphase (by rw [hbody]; exact beq_self_eq_true _)
  cases hx : s.record? r with
  | none =>
    have hzero := h.absent (by rw [state?, hx, Option.map_none])
    omega
  | some x =>
    refine ⟨x, rfl, fun hstate => ?_⟩
    have hzero := h.waiting (state?_eq_some.mpr ⟨x, hx, hstate⟩)
    omega

theorem Attended.not_pending {i : Nat} {phase : WorkerPhase} (h : Attended s r)
    (hphase : s.pool.phase? i = some phase) (hbody : phase.body? = some r) :
    s.isPending r = false := by
  obtain ⟨x, hx, hnot⟩ := h.record hphase hbody
  rw [isPending, state?, hx, Option.map_some]
  exact beq_false_of_ne fun heq => hnot (Option.some.inj heq)

theorem Attended.settles (h : Attended s r) (hrecords : Evolves Record.Settles s t)
    (hbodies : t.bodies r = s.bodies r) : Attended t r := by
  have hone : t.bodies r ≤ 1 := hbodies ▸ h.one
  rcases hrecords.state? r with hsame | ⟨hnone, hnew⟩ | ⟨-, hto | hto⟩ | ⟨-, hto⟩
  · exact h.congr hsame hbodies
  · refine .of_zero ?_ (hbodies.trans (h.absent hnone))
    rw [hnew]
    nofun
  · exact .of_final hto rfl hone
  · exact .of_final hto rfl hone
  · exact .of_final hto rfl hone

/-- The body of one record is left, and what has become of the record does not run. -/
theorem Attended.leaves {i : Nat} {r' : Ref} {old new : WorkerPhase} {g : Record α → Record α}
    (h : Attended s r) (hphase : s.pool.phase? i = some old) (hold : old.body? = some r')
    (hnew : new.body? = none) (hpool : t.pool = s.pool.setPhase i new)
    (hrecords : t.records = s.records.modify r' g) (hg : ∀ x, (g x).state ≠ .running) :
    Attended t r := by
  have hbodies := bodies_setPhase hphase hpool r
  have hrecord := record?_of_modify hrecords r
  rw [hold, hnew] at hbodies
  by_cases hr : r' = r
  · subst hr
    have hone := h.one
    rw [if_pos rfl] at hrecord
    refine .of_zero (fun hrunning => ?_) ?_
    · obtain ⟨y, hy, hstate⟩ := state?_eq_some.mp hrunning
      rw [hrecord, Option.map_eq_some_iff] at hy
      obtain ⟨x, -, rfl⟩ := hy
      exact hg x hstate
    · rw [beq_self_eq_true] at hbodies
      simp only [Bool.toNat_true, reduceBEq, Bool.toNat_false] at hbodies
      omega
  · rw [if_neg hr] at hrecord
    have hother : (some r' == some r) = false := beq_false_of_ne (by simpa using hr)
    rw [hother] at hbodies
    exact h.congr (congrArg (Option.map Record.state) hrecord) hbodies

/-- A worker has moved a record from `pending` to `running`. -/
theorem Attended.begins {i : Nat} {r' : Ref} {x : Record α} (h : Attended s r)
    (hphase : s.pool.phase? i = some (.picked r')) (hx : s.record? r' = some x)
    (hstate : x.state = .pending) (hpool : t.pool = s.pool.setPhase i (.begun r'))
    (hrecords : t.records = s.records.modify r' fun record => { record with state := .running }) :
    Attended t r := by
  have hbodies := bodies_setPhase hphase hpool r
  have hrecord := record?_of_modify hrecords r
  by_cases hr : r' = r
  · subst hr
    rw [if_pos rfl, hx] at hrecord
    have hnobody := h.waiting (state?_eq_some.mpr ⟨x, hx, hstate⟩)
    have hone : t.bodies r' = 1 := by
      simpa [WorkerPhase.body?, hnobody] using hbodies
    have hrunning : t.state? r' = some .running := state?_eq_some.mpr ⟨_, hrecord, rfl⟩
    constructor
    · omega
    · intro _
      exact hone
    · intro hpending
      rw [hrunning] at hpending
      cases hpending
    · intro hnone
      rw [hrunning] at hnone
      cases hnone
  · rw [if_neg hr] at hrecord
    have hother : (some r' == some r) = false := beq_false_of_ne (by simpa using hr)
    simp only [WorkerPhase.body?, hother] at hbodies
    exact h.congr (congrArg (Option.map Record.state) hrecord) hbodies

theorem WorkerMove.attended (h : WorkerMove s a t) (hs : Attended s r) : Attended t r := by
  cases h with
  | looked hlook => exact hs.congr rfl (bodies_looked hlook r)
  | expired hexpire => exact hs.congr rfl ((Pool.expire_tally hexpire).2 _ rfl rfl)
  | counted hcount => exact hs.congr rfl ((Pool.countRun_tally hcount).2 _ (fun _ => rfl) rfl)
  | @began i r' x hphase hx hstate => exact hs.begins hphase hx hstate rfl rfl
  | passedOver hphase _ => exact hs.congr rfl (bodies_same hphase rfl rfl)
  | @entered i r' hphase _ =>
    exact hs.congr (state?_of_modify rfl (fun x => x.enterBody_enters.state) r)
      (bodies_same hphase rfl rfl)
  | spent hphase _ =>
    exact hs.leaves hphase rfl rfl rfl rfl fun x =>
      (x.enterBody.1.complete_completes _ _ _).not_running
  | finished hphase _ =>
    exact hs.leaves hphase rfl rfl rfl rfl fun x => (x.complete_completes _ _ _).not_running
  | rescheduled hphase _ _ =>
    exact hs.leaves hphase rfl rfl rfl rfl fun x => (x.complete_completes _ _ _).not_running
  | @requeued i r' queue needsPump hphase _ =>
    refine hs.congr rfl ?_
    exact bodies_same hphase rfl (by cases needsPump <;> rfl)
  | refused hphase _ => exact hs.congr rfl (bodies_same hphase rfl rfl)
  | gaveUp hphase =>
    exact hs.settles (.of_modify rfl rfl .refl fun x _ => x.giveUp_settles)
      (bodies_same hphase rfl rfl)
  | launched hphase _ | unlaunched hphase _ | retracted hphase =>
    exact hs.congr rfl (bodies_same hphase rfl rfl)
  | rejected hphase =>
    exact hs.settles (.of_modify rfl rfl .refl fun x _ => x.reject_settles _)
      (bodies_same hphase rfl rfl)

/-- A worker comes to the body of a record only if the record waits. -/
theorem WorkerMove.bodies_le (h : WorkerMove s a t) (hnot : s.isPending r = false) :
    t.bodies r ≤ s.bodies r := by
  have hleaves : ∀ {i : Nat} {old new : WorkerPhase}, s.pool.phase? i = some old →
      t.pool = s.pool.setPhase i new → new.body? ≠ some r → t.bodies r ≤ s.bodies r := by
    intro i old new hphase hpool hnew
    have hbodies := bodies_setPhase hphase hpool r
    rw [beq_false_of_ne hnew, Bool.toNat_false] at hbodies
    omega
  cases h with
  | looked hlook => exact Nat.le_of_eq (bodies_looked hlook r)
  | expired hexpire => exact Nat.le_of_eq ((Pool.expire_tally hexpire).2 _ rfl rfl)
  | counted hcount => exact Nat.le_of_eq ((Pool.countRun_tally hcount).2 _ (fun _ => rfl) rfl)
  | began hphase hx hstate =>
    refine hleaves hphase rfl fun heq => ?_
    cases heq
    rw [isPending_iff.mpr ⟨_, hx, hstate⟩] at hnot
    cases hnot
  | entered hphase _ => exact Nat.le_of_eq (bodies_same hphase rfl rfl)
  | @requeued i r' queue needsPump hphase _ =>
    refine hleaves hphase rfl ?_
    cases needsPump <;> nofun
  | passedOver hphase _ => exact hleaves hphase rfl nofun
  | spent hphase _ => exact hleaves hphase rfl nofun
  | finished hphase _ => exact hleaves hphase rfl nofun
  | rescheduled hphase _ _ => exact hleaves hphase rfl nofun
  | refused hphase _ => exact hleaves hphase rfl nofun
  | gaveUp hphase => exact hleaves hphase rfl nofun
  | launched hphase _ | unlaunched hphase _ | retracted hphase | rejected hphase =>
    exact hleaves hphase rfl nofun

theorem Move.attended (h : Move s a t) (hs : Attended s r) : Attended t r := by
  rcases h.kinds with ⟨u, _, _, hcall, -, ht⟩ | hpump | hworker | howner | ⟨now, rfl⟩
  · rw [ht]
    exact (hs.settles hcall.settles (bodies_calm hcall.callsPool r)).congr rfl rfl
  · exact hs.settles hpump.settles (bodies_calm hpump.callsPool r)
  · exact hworker.attended hs
  · exact hs.congr (by cases howner <;> rfl) (bodies_calm howner.callsPool r)
  · exact hs.congr rfl rfl

theorem Move.bodies_le (h : Move s a t) (hnot : s.isPending r = false) :
    t.bodies r ≤ s.bodies r := by
  rcases h.kinds with ⟨u, _, _, hcall, -, ht⟩ | hpump | hworker | howner | ⟨now, rfl⟩
  · rw [ht]
    exact Nat.le_of_eq (bodies_calm hcall.callsPool r)
  · exact Nat.le_of_eq (bodies_calm hpump.callsPool r)
  · exact hworker.bodies_le hnot
  · exact Nat.le_of_eq (bodies_calm howner.callsPool r)
  · exact Nat.le_refl _

theorem Reachable.attended (h : Reachable s) (r : Ref) : Attended s r := by
  refine h.of_moves (P := fun s => Attended s r) ?_ ?_ ?_
  · intro u
    exact propext ⟨fun hu => hu.congr rfl rfl, fun hu => hu.congr rfl rfl⟩
  · intro host name config clockEnd now
    exact .of_zero nofun rfl
  · intro s t a _ hs hmove
    exact hmove.attended hs

end System

end TaskScheduler
