import TaskScheduler.Proofs.Termination

/-
  A record that does not repeat runs once.

  `startsLeft s r` is one while the record waits, or while a worker has moved it to `running` and
  has not yet called its body. `Move.spends`: every start of the body, and every way to take the
  record back, uses this up, and nothing gives it back. So `Reachable.body_left`: a worker that is
  to call a body never finds it spent. `one_shot_runs_once`: over a whole run the body is started
  at most once, and once the service is terminated it has been, unless the record was taken back.
-/
namespace TaskScheduler.System

variable {α : Type} {s t : System α} {a : Action α} {r : Ref} {i : Nat}

/-! ## What happens to a body -/

/-- A worker starts the body of the record. -/
def startsBody (r : Ref) (s : System α) (a : Action α) (_ : System α) : Bool :=
  match a with
  | .worker i => s.pool.phase? i == some (.begun r) && (s.enterBody r).2
  | _ => false

/-- A worker is to start a body, and finds that it has been consumed before. -/
def findsBodySpent (s : System α) (a : Action α) (_ : System α) : Bool :=
  match a with
  | .worker i =>
    match s.pool.phase? i with
    | some (.begun r) => !(s.enterBody r).2
    | _ => false
  | _ => false

/-- A record that waits is cancelled, by a client or by the drain, or it is rejected. -/
def takesBack (r : Ref) (s : System α) (_ : Action α) (t : System α) : Bool :=
  s.isPending r && (t.state? r == some .cancelled || t.state? r == some .failed)

/-- The number of workers that have moved the record to `running` and are yet to call its body. -/
def entering (s : System α) (r : Ref) : Nat := s.pool.tally fun phase => phase == .begun r

/-- The record waits, or is still to be made. -/
def waits (s : System α) (r : Ref) : Bool := (s.state? r).all (· == .pending)

/-- How often the body of a record that does not repeat may still be started. -/
def startsLeft (s : System α) (r : Ref) : Nat := (s.waits r).toNat + s.entering r

/-- One if the body has been consumed. -/
def consumed (s : System α) (r : Ref) : Nat := ((s.record? r).any (·.bodySpent)).toNat

theorem entering_calm (h : CallsPool s t) (r : Ref) : t.entering r = s.entering r :=
  h.calm _ rfl rfl rfl

theorem entering_setPhase {old new : WorkerPhase} (h : s.pool.phase? i = some old)
    (ht : t.pool = s.pool.setPhase i new) (r : Ref) :
    t.entering r + (old == .begun r).toNat = s.entering r + (new == .begun r).toNat := by
  rw [entering, ht]
  exact Pool.tally_setPhase h new _

theorem entering_same {old new : WorkerPhase} (h : s.pool.phase? i = some old)
    (ht : t.pool = s.pool.setPhase i new) (hold : old ≠ .begun r) (hnew : new ≠ .begun r) :
    t.entering r = s.entering r := by
  have hentering := entering_setPhase h ht r
  rw [beq_false_of_ne hold, beq_false_of_ne hnew] at hentering
  exact hentering

theorem entering_le_bodies (s : System α) (r : Ref) : s.entering r ≤ s.bodies r := by
  refine List.countP_mono_left fun w _ hbegun => ?_
  rw [eq_of_beq hbegun]
  exact beq_self_eq_true _

theorem startsBody_other {old : WorkerPhase} (h : s.pool.phase? i = some old)
    (hold : old ≠ .begun r) : startsBody r s (.worker i) t = false := by
  have hother : (some old == some (WorkerPhase.begun r)) = false :=
    beq_false_of_ne fun heq => hold (Option.some.inj heq)
  rw [startsBody, h, hother, Bool.false_and]

/-- A body is started by a worker that has the record in hand. -/
theorem startsBody_of_bodies (h : s.bodies r = 0) : startsBody r s a t = false := by
  cases a with
  | worker i =>
    have hnot : s.pool.phase? i ≠ some (.begun r) := fun hphase => by
      have hpos : 0 < s.bodies r := Pool.tally_pos hphase (beq_self_eq_true (some r))
      omega
    rw [startsBody, beq_false_of_ne hnot, Bool.false_and]
  | _ => rfl

/-! ## Steps -/

/-- What a step does to the starts that are left to a record. -/
structure Spends (s : System α) (a : Action α) (t : System α) (r : Ref) : Prop where
  left : t.startsLeft r + (startsBody r s a t).toNat + (takesBack r s a t).toNat = s.startsLeft r
  consumed : t.consumed r = s.consumed r + (startsBody r s a t).toNat

/-- A record that is taken back does not wait any more; else it waits as before. -/
theorem Evolves.waits (h : Evolves Record.Settles s t) (a : Action α) (r : Ref) :
    (t.waits r).toNat + (takesBack r s a t).toNat = (s.waits r).toNat := by
  unfold System.waits takesBack isPending
  rcases h.state? r with hsame | ⟨hs, ht⟩ | ⟨hs, ht | ht⟩ | ⟨hs, ht⟩
  · rw [hsame]
    cases s.state? r with
    | none => rfl
    | some state => cases state <;> rfl
  · rw [hs, ht]
    rfl
  · rw [hs, ht]
    rfl
  · rw [hs, ht]
    rfl
  · rw [hs, ht]
    rfl

theorem Evolves.consumed (h : Evolves Record.Settles s t) (r : Ref) :
    t.consumed r = s.consumed r := by
  unfold System.consumed
  cases hx : s.record? r with
  | some x =>
    obtain ⟨y, hy, hsettles⟩ := h.kept hx
    rw [hy, Option.any_some, Option.any_some, hsettles.bodySpent]
  | none =>
    cases hy : t.record? r with
    | none => rfl
    | some y => rw [Option.any_some, (h.made hy hx).bodySpent, Option.any_none]

/-- Records have at most been given up, and no worker has come to a body or called one. -/
theorem Spends.of_settles (h : Evolves Record.Settles s t) (hentering : t.entering r = s.entering r)
    (hstarts : startsBody r s a t = false) : Spends s a t r := by
  have hwaits := h.waits a r
  constructor
  · rw [startsLeft, startsLeft, hentering, hstarts, Bool.toNat_false]
    omega
  · rw [hstarts]
    exact h.consumed r

/-- A worker goes on that is not at the start of a body, before and after. -/
theorem Spends.of_worker {old new : WorkerPhase} (h : Evolves Record.Settles s t)
    (hphase : s.pool.phase? i = some old) (ht : t.pool = s.pool.setPhase i new)
    (hold : old ≠ .begun r) (hnew : new ≠ .begun r) : Spends s (.worker i) t r :=
  .of_settles h (entering_same hphase ht hold hnew) (startsBody_other hphase hold)

/-- A record other than the one that a worker is at. -/
theorem Spends.of_other {r' : Ref} {g : Record α → Record α} (hr : r' ≠ r)
    (hrecords : t.records = s.records.modify r' g) (hentering : t.entering r = s.entering r)
    (hstarts : startsBody r s a t = false) : Spends s a t r := by
  have hrecord := record?_of_modify hrecords r
  rw [if_neg hr] at hrecord
  have hstate : t.state? r = s.state? r := congrArg (Option.map Record.state) hrecord
  have hback : takesBack r s a t = false := by
    unfold takesBack isPending
    rw [hstate]
    cases s.state? r with
    | none => rfl
    | some state => cases state <;> rfl
  constructor
  · rw [hstarts, hback, startsLeft, startsLeft, hentering, waits, waits, hstate]
    rfl
  · rw [hstarts, System.consumed, System.consumed, hrecord]
    rfl

/-- A record that waits neither before nor after, of which a worker may call the body. -/
theorem Spends.of_running {x y : Record α} (hx : s.record? r = some x) (hnot : x.state ≠ .pending)
    (hy : t.record? r = some y) (hnot' : y.state ≠ .pending)
    (hentering : t.entering r + (startsBody r s a t).toNat = s.entering r)
    (hspent : y.bodySpent.toNat = x.bodySpent.toNat + (startsBody r s a t).toNat) :
    Spends s a t r := by
  have hwaits : s.waits r = false := by
    rw [System.waits, state?, hx, Option.map_some, Option.all_some, beq_false_of_ne hnot]
  have hwaits' : t.waits r = false := by
    rw [System.waits, state?, hy, Option.map_some, Option.all_some, beq_false_of_ne hnot']
  have hback : takesBack r s a t = false := by
    have hpending : s.isPending r = false := by
      rw [isPending, state?, hx, Option.map_some]
      exact beq_false_of_ne fun heq => hnot (Option.some.inj heq)
    rw [takesBack, hpending, Bool.false_and]
  constructor
  · rw [startsLeft, startsLeft, hwaits, hwaits', hback, Bool.toNat_false]
    omega
  · rw [System.consumed, System.consumed, hx, hy, Option.any_some, Option.any_some]
    exact hspent

theorem enterBody_snd {x : Record α} (h : s.record? r = some x) :
    (s.enterBody r).2 = x.enterBody.2 := by
  rw [enterBody, h]

/-- A worker that is to call a body finds it, if there was one start left at most. -/
theorem body_left_of_le (hatt : Attended s r)
    (hleft : s.repeats r = false → s.startsLeft r + s.consumed r ≤ 1)
    (hphase : s.pool.phase? i = some (.begun r)) : (s.enterBody r).2 = true := by
  obtain ⟨x, hx, -⟩ := hatt.record hphase rfl
  rw [enterBody_snd hx, Record.enterBody]
  split
  next => rfl
  next hrepeats =>
    have honce : s.repeats r = false := by
      rw [repeats_of_record hx]
      exact eq_false_of_ne_true hrepeats
    have hpos : 0 < s.entering r := Pool.tally_pos hphase (beq_self_eq_true _)
    have hle : s.startsLeft r + s.consumed r ≤ 1 := hleft honce
    have hspent : s.consumed r = 0 := by
      rw [startsLeft] at hle
      omega
    rw [System.consumed, hx, Option.any_some] at hspent
    cases hb : x.bodySpent with
    | false => rfl
    | true =>
      rw [hb] at hspent
      cases hspent

/-- A worker moves a record from `pending` to `running`, and is then to call its body. -/
theorem Spends.began {r' : Ref} {x : Record α} (hphase : s.pool.phase? i = some (.picked r'))
    (hx : s.record? r' = some x) (hstate : x.state = .pending)
    (hpool : t.pool = s.pool.setPhase i (.begun r'))
    (hrecords : t.records = s.records.modify r' fun record => { record with state := .running }) :
    Spends s (.worker i) t r := by
  have hentering := entering_setPhase hphase hpool r
  have hstarts : startsBody r s (.worker i) t = false := startsBody_other hphase nofun
  by_cases hr : r' = r
  · subst hr
    have hrecord := record?_of_modify hrecords r'
    rw [if_pos rfl, hx, Option.map_some] at hrecord
    have hafter : t.state? r' = some .running := state?_eq_some.mpr ⟨_, hrecord, rfl⟩
    have hwaits : s.waits r' = true := by
      rw [waits, state?_eq_some.mpr ⟨x, hx, hstate⟩]
      rfl
    have hwaits' : t.waits r' = false := by
      rw [waits, hafter]
      rfl
    have hback : takesBack r' s (.worker i) t = false := by
      rw [takesBack, hafter]
      exact Bool.and_false _
    rw [beq_self_eq_true] at hentering
    have hmore : t.entering r' = s.entering r' + 1 := hentering
    constructor
    · rw [startsLeft, startsLeft, hwaits, hwaits', hstarts, hback, hmore, Bool.toNat_true,
        Bool.toNat_false]
      omega
    · rw [hstarts, System.consumed, System.consumed, hrecord, hx]
      rfl
  · have hother : (WorkerPhase.begun r' == .begun r) = false :=
      beq_false_of_ne fun heq => hr (WorkerPhase.begun.inj heq)
    rw [hother] at hentering
    exact .of_other hr hrecords hentering hstarts

/-- A worker calls the body of a record that does not repeat. -/
theorem Spends.entered {r' : Ref} (hatt : Attended s r)
    (hphase : s.pool.phase? i = some (.begun r')) (hbody : (s.enterBody r').2 = true)
    (honce : s.repeats r = false) (hpool : t.pool = s.pool.setPhase i (.running r'))
    (hrecords : t.records = s.records.modify r' (·.enterBody.1)) : Spends s (.worker i) t r := by
  have hentering := entering_setPhase hphase hpool r
  by_cases hr : r' = r
  · subst hr
    obtain ⟨x, hx, hnot⟩ := hatt.record hphase rfl
    have hrecord := record?_of_modify hrecords r'
    rw [if_pos rfl, hx, Option.map_some] at hrecord
    have hstarts : startsBody r' s (.worker i) t = true := by
      rw [startsBody, hphase, hbody, beq_self_eq_true, Bool.and_true]
    have hrepeats : x.repeats = false := by
      rw [repeats_of_record hx] at honce
      exact honce
    rw [enterBody_snd hx, Record.enterBody, hrepeats] at hbody
    have hfresh : x.bodySpent = false := Bool.not_eq_true' _ ▸ hbody
    refine .of_running hx hnot hrecord ?_ ?_ ?_
    · rw [x.enterBody_enters.state]
      exact hnot
    · rw [hstarts]
      rw [beq_self_eq_true] at hentering
      exact hentering
    · rw [hstarts, hfresh, Record.enterBody, hrepeats]
      rfl
  · have hother : WorkerPhase.begun r' ≠ .begun r := fun heq => hr (WorkerPhase.begun.inj heq)
    rw [beq_false_of_ne hother] at hentering
    exact .of_other hr hrecords hentering (startsBody_other hphase hother)

/-- The body of a record has ended, and the record is not to run again. -/
theorem Spends.ended {r' : Ref} {g : Record α → Record α} {old : WorkerPhase}
    (hatt : Attended s r) (hphase : s.pool.phase? i = some old) (hold : old.body? = some r')
    (hrecords : t.records = s.records.modify r' g)
    (hg : ∀ x, s.record? r' = some x → r' = r → Record.Completes x (g x) .finished)
    (hentering : t.entering r = s.entering r) (hstarts : startsBody r s a t = false) :
    Spends s a t r := by
  by_cases hr : r' = r
  · subst hr
    obtain ⟨x, hx, hnot⟩ := hatt.record hphase hold
    have hrecord := record?_of_modify hrecords r'
    rw [if_pos rfl, hx, Option.map_some] at hrecord
    have hcompletes := hg x hx rfl
    refine .of_running hx hnot hrecord ?_ ?_ ?_
    · intro hpending
      rcases hcompletes.state with ⟨-, hsame, -⟩ | ⟨-, hfinal, -⟩ | ⟨-, -, -, hagain⟩
      · exact hnot (hsame.symm.trans hpending)
      · rw [Record.isFinal, hpending] at hfinal
        cases hfinal
      · cases hagain
    · rw [hstarts]
      exact hentering
    · rw [hstarts, hcompletes.bodySpent]
      rfl
  · exact .of_other hr hrecords hentering hstarts

theorem WorkerMove.spends (h : WorkerMove s a t) (hatt : Attended s r)
    (hleft : s.startsLeft r + s.consumed r ≤ 1) (honce : s.repeats r = false) :
    Spends s a t r := by
  cases h with
  | @looked i pool hlook =>
    obtain ⟨old, hphase, hback, -⟩ := Pool.look_result hlook
    obtain ⟨old', new, hback', htally, hnew⟩ := Pool.look_tally hlook
    have hold : ∀ {phase : WorkerPhase}, Pool.comesBack phase = true → phase ≠ .begun r := by
      rintro phase hphase rfl
      cases hphase
    have hbegun : (new == .begun r) = false := by
      rcases hnew with ⟨-, rfl | rfl⟩ | ⟨r', -, rfl⟩ <;> rfl
    refine .of_settles (.of_records rfl rfl .refl) ?_ (startsBody_other hphase (hold hback))
    have hentering := htally fun phase => phase == .begun r
    rw [beq_false_of_ne (hold hback'), hbegun] at hentering
    exact hentering
  | expired hexpire =>
    exact .of_settles (.of_records rfl rfl .refl) ((Pool.expire_tally hexpire).2 _ rfl rfl) rfl
  | counted hcount =>
    obtain ⟨r', hphase, -⟩ := Pool.countRun_eq_some hcount
    exact .of_settles (.of_records rfl rfl .refl)
      ((Pool.countRun_tally hcount).2 _ (fun _ => rfl) rfl) (startsBody_other hphase nofun)
  | began hphase hx hstate => exact .began hphase hx hstate rfl rfl
  | passedOver hphase _ => exact .of_worker (.of_records rfl rfl .refl) hphase rfl nofun nofun
  | entered hphase hbody => exact .entered hatt hphase hbody honce rfl rfl
  | @spent i r' hphase hbody =>
    by_cases hr : r' = r
    · -- The run would find the body consumed by a start that is still left.
      subst hr
      rw [body_left_of_le hatt (fun _ => hleft) hphase] at hbody
      cases hbody
    · have hother : WorkerPhase.begun r' ≠ .begun r := fun heq => hr (WorkerPhase.begun.inj heq)
      refine .of_other hr rfl ?_ (startsBody_other hphase hother)
      exact entering_same hphase rfl hother nofun
  | @finished i r' result hphase hfinished =>
    refine .ended hatt hphase rfl rfl (fun x hx _ => ?_) ?_ rfl
    · have hcompletes := x.complete_completes s.clockEnd s.now (.ofExcept result)
      rw [hfinished x hx] at hcompletes
      exact hcompletes
    · exact entering_same hphase rfl nofun nofun
  | @rescheduled i r' x result hphase hx hafter =>
    refine .ended hatt hphase rfl rfl (fun y hy hr => ?_) ?_ rfl
    · have hcompletes := x.complete_completes s.clockEnd s.now (.ofExcept result)
      rw [hafter] at hcompletes
      rcases hcompletes.state with ⟨-, -, hnot⟩ | ⟨-, -, hnot⟩ | ⟨-, -, hrepeats, -⟩
      · cases hnot
      · cases hnot
      · rw [← hr, repeats_of_record hx, hrepeats] at honce
        cases honce
    · exact entering_same hphase rfl nofun nofun
  | @requeued i r' queue needsPump hphase _ =>
    refine .of_worker (.of_records rfl rfl .refl) hphase rfl nofun ?_
    cases needsPump <;> nofun
  | refused hphase _ => exact .of_worker (.of_records rfl rfl .refl) hphase rfl nofun nofun
  | gaveUp hphase =>
    exact .of_worker (.of_modify rfl rfl .refl fun x _ => x.giveUp_settles) hphase rfl nofun nofun
  | launched hphase _ => exact .of_worker (.of_records rfl rfl .refl) hphase rfl nofun nofun
  | @unlaunched i r' k reason hphase _ _ =>
    refine .of_settles (.of_records rfl rfl .refl) ?_ rfl
    exact entering_same hphase rfl nofun nofun
  | retracted hphase => exact .of_worker (.of_records rfl rfl .refl) hphase rfl nofun nofun
  | rejected hphase =>
    exact .of_worker (.of_modify rfl rfl .refl fun x _ => x.reject_settles _) hphase rfl nofun
      nofun

/-- Every start of a body, and every way to take its record back, uses a start up that was left. -/
theorem Move.spends (h : Move s a t) (hatt : Attended s r)
    (hleft : s.startsLeft r + s.consumed r ≤ 1) (honce : s.repeats r = false) :
    Spends s a t r := by
  cases h with
  | begun hmove =>
    have hevolves := hmove.settles
    exact .of_settles ⟨hevolves.kept, hevolves.made, hevolves.counted⟩
      (entering_calm hmove.callsPool r) rfl
  | called _ hmove | callRefused _ hmove =>
    have hevolves := hmove.settles
    exact .of_settles ⟨hevolves.kept, hevolves.made, hevolves.counted⟩
      (entering_calm hmove.callsPool r) rfl
  | pumped hmove | pumpIdled hmove | pumpFaulted hmove =>
    exact .of_settles hmove.settles (entering_calm hmove.callsPool r) rfl
  | worked hmove => exact hmove.spends hatt hleft honce
  | resized size =>
    exact .of_settles (.of_records rfl rfl .refl)
      (entering_calm (OwnerMove.resized size).callsPool r) rfl
  | prestarted count =>
    exact .of_settles (.of_records rfl rfl .refl)
      (entering_calm (OwnerMove.prestarted count).callsPool r) rfl
  | refactored factory =>
    exact .of_settles (.of_records rfl rfl .refl)
      (entering_calm (OwnerMove.refactored factory).callsPool r) rfl
  | timePassed time => exact .of_settles (.of_records rfl rfl .refl) rfl rfl
  | declined hdeclined =>
    refine .of_settles (.of_records rfl rfl .refl) rfl ?_
    rcases hdeclined with rfl | ⟨operation, rfl⟩ <;> rfl

/-- A record that does not repeat is one that has not done so before. -/
theorem Evolves.once (h : Evolves Record.Keeps s t) (honce : t.repeats r = false) :
    s.repeats r = false := by
  cases hx : s.record? r with
  | none => rw [repeats, hx, Option.any_none]
  | some x =>
    obtain ⟨y, hy, hkeeps⟩ := h.kept hx
    rw [repeats_of_record hy, hkeeps.repeats] at honce
    rw [repeats_of_record hx, honce]

theorem step_once {s' : System α} (hstep : s.step a = some s') (honce : s'.repeats r = false) :
    s.repeats r = false :=
  step_of_move (P := fun s' => s'.repeats r = false → s.repeats r = false) (fun _ => rfl)
    (fun hmove => hmove.keeps.once) hstep honce

/-- The body of a record that does not repeat has been consumed, or there is a start left, or
neither. -/
theorem Reachable.startsLeft_le (h : Reachable s) :
    s.repeats r = false → s.startsLeft r + s.consumed r ≤ 1 := by
  refine h.of_moves (P := fun s => s.repeats r = false → s.startsLeft r + s.consumed r ≤ 1)
    (fun _ => rfl) ?_ ?_
  · intro host name config clockEnd now _
    exact Nat.le_refl 1
  · intro s t a hreach hs hmove honce
    have honce' := hmove.keeps.once honce
    have hspends := hmove.spends (hreach.attended r) (hs honce') honce'
    have hle := hs honce'
    have hleft := hspends.left
    have hspent := hspends.consumed
    omega

/-- A worker that is to call a body finds one. -/
theorem Reachable.body_left (h : Reachable s) (hphase : s.pool.phase? i = some (.begun r)) :
    (s.enterBody r).2 = true :=
  body_left_of_le (h.attended r) h.startsLeft_le hphase

/-! ## Runs -/

theorem Reachable.step_spends {s' : System α} (h : Reachable s) (hstep : s.step a = some s')
    (honce : s'.repeats r = false) :
    s.repeats r = false ∧
      s'.startsLeft r + (startsBody r s a s').toNat + (takesBack r s a s').toNat =
        s.startsLeft r := by
  obtain ⟨t, hmove, hcore⟩ := step_move hstep
  revert honce
  refine of_core (P := fun s' => s'.repeats r = false → s.repeats r = false ∧
      s'.startsLeft r + (startsBody r s a s').toNat + (takesBack r s a s').toNat =
        s.startsLeft r) (fun _ => rfl) hcore fun honce => ?_
  have honce' := hmove.keeps.once honce
  exact ⟨honce', (hmove.spends (h.attended r) (h.startsLeft_le honce') honce').left⟩

/-- Over a run, what was left at its start is left at its end, or has been used up. -/
theorem Reachable.exec_spends {actions : List (Action α)} (h : Reachable s)
    (hrun : s.exec actions = some t) (honce : t.repeats r = false) :
    s.repeats r = false ∧
      t.startsLeft r + s.occurrences (startsBody r) actions + s.occurrences (takesBack r) actions =
        s.startsLeft r := by
  induction actions generalizing s with
  | nil =>
    cases hrun
    exact ⟨honce, rfl⟩
  | cons a rest ih =>
    obtain ⟨s', hstep, hrest⟩ := exec_cons hrun
    obtain ⟨honce', hrun'⟩ := ih (h.step a hstep) hrest
    obtain ⟨honce'', hspends⟩ := h.step_spends hstep honce'
    refine ⟨honce'', ?_⟩
    rw [occurrences_cons hstep, occurrences_cons hstep]
    omega

/-- No worker ever finds a body consumed. -/
theorem Reachable.exec_finds (h : Reachable s) (actions : List (Action α)) :
    s.occurrences findsBodySpent actions = 0 := by
  refine occurrences_eq_zero (fun {s s' a} h hstep => ⟨?_, h.step a hstep⟩) h actions
  unfold findsBodySpent
  split
  next i =>
    split
    next r hphase => rw [h.body_left hphase, Bool.not_true]
    next => rfl
  next => rfl

/-- In a terminated service an accepted record has no start left. -/
theorem Reachable.startsLeft_terminated (h : Reachable s) (hlife : s.lifecycle = .terminated)
    (hr : r ∈ s.accepted) : s.startsLeft r = 0 := by
  have hplaces := h.nowhere hlife r
  have hentering := s.entering_le_bodies r
  have hbodies := s.bodies_le_places r
  have hwaits : s.waits r = false := by
    obtain ⟨x, hx, hfinal⟩ := isFinal_iff.mp (h.accepted_final hlife hr)
    rw [waits, state?, hx, Option.map_some, Option.all_some]
    refine beq_false_of_ne fun hpending => ?_
    rw [Record.isFinal, hpending] at hfinal
    cases hfinal
  rw [startsLeft, hwaits, Bool.toNat_false]
  omega

/-- The body of a record that does not repeat is started at most once, and never if the record is
taken back while it waits. No worker ever finds a body consumed. Once the service is terminated,
the body of an accepted record has been started exactly once, unless the record was taken back. -/
theorem one_shot_runs_once (host : Host) (name : String) (config : ServiceConfig)
    (clockEnd now : Instant) {actions : List (Action α)}
    (hrun : (System.initial host name config clockEnd now).exec actions = some s)
    (honce : s.repeats r = false) :
    let started := (System.initial host name config clockEnd now).occurrences (startsBody r) actions
    let takenBack :=
      (System.initial host name config clockEnd now).occurrences (takesBack r) actions
    started ≤ 1 ∧ (0 < takenBack → started = 0) ∧
      (System.initial host name config clockEnd now).occurrences findsBodySpent actions = 0 ∧
      (s.lifecycle = .terminated → r ∈ s.accepted → takenBack = 0 → started = 1) := by
  intro started takenBack
  have hstart : Reachable (System.initial host name config clockEnd now : System α) :=
    .initial host name config clockEnd now
  have hspends : s.startsLeft r + started + takenBack = 1 := (hstart.exec_spends hrun honce).2
  refine ⟨by omega, fun _ => by omega, hstart.exec_finds actions, ?_⟩
  intro hlife hr hnot
  have hleft := (hstart.exec hrun).startsLeft_terminated hlife hr
  omega

/-- The one record of a service that has come to its end has been run once. -/
theorem single_record_runs_once :
    ∃ s : System Unit,
      (System.initial .lenient "service" (.ofProcessors 1) 100 0).exec singleRun = some s ∧
      s.lifecycle = .terminated ∧ s.accepted = [0] ∧ s.repeats 0 = false ∧
      (System.initial .lenient "service" (.ofProcessors 1) 100 0 : System Unit).occurrences
        (startsBody 0) singleRun = 1 := by
  have hview : ((System.initial .lenient "service" (.ofProcessors 1) 100 0).exec singleRun).map
      (fun s => (s.lifecycle, s.accepted, s.repeats 0)) = some (.terminated, [0], false) := by
    decide +kernel
  obtain ⟨s, hrun, hs⟩ := Option.map_eq_some_iff.mp hview
  simp only [Prod.mk.injEq] at hs
  obtain ⟨hlife, haccepted, honce⟩ := hs
  obtain ⟨-, -, -, hstarted⟩ :=
    one_shot_runs_once .lenient "service" (.ofProcessors 1) 100 0 hrun honce
  have honly := hstarted hlife (haccepted ▸ List.mem_singleton_self 0) (by decide +kernel)
  exact ⟨s, hrun, hlife, haccepted, honce, honly⟩

end TaskScheduler.System
