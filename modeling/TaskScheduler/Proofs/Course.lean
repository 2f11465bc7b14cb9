import TaskScheduler.Proofs.Reserved

/-
  What becomes of a record that belongs to a batch.

  Such a record waits, is run by a worker, and comes to its end with the result of its body, unless
  the batch cancels it while it waits. `Course` says how far it has come, next to what has been
  observed: how often its body has been started, and with which results it has ended. Steps of
  others take it along that course (`Course.step`), and the batch itself only asks for its
  cancellation once (`Course.ask`), or takes its outcome once (`Course.collect`).
-/
namespace TaskScheduler

/-- The state that the end of its body leaves a record in that runs once. -/
def stateAfter {α : Type} : Except Failure α → RecordState
  | .ok _ => .done
  | .error _ => .failed

/-- The outcome that the end of its body leaves to a record that runs once. -/
def outcomeAfter {α : Type} : Except Failure α → Except TaskError α
  | .ok value => .ok value
  | .error failure => .error (.failed failure)

theorem isFinal_stateAfter {α : Type} (result : Except Failure α) :
    (stateAfter result).isFinal = true := by cases result <;> rfl

theorem stateAfter_ne_pending {α : Type} (result : Except Failure α) :
    stateAfter result ≠ .pending := by cases result <;> rintro ⟨⟩

theorem Record.complete_running {α : Type} {x : Record α} (hstate : x.state = .running)
    (honce : x.repeats = false) (last now : Instant) (result : Except Failure α) :
    (x.complete last now (.ofExcept result)).1 =
      x.finish (stateAfter result) (outcomeAfter result) := by
  cases result with
  | ok value => simp [complete, BodyResult.ofExcept, hstate, honce, stateAfter, outcomeAfter]
  | error failure => simp [complete, BodyResult.ofExcept, hstate, stateAfter, outcomeAfter]

namespace System

variable {α : Type} {s s' t u : System α} {a : Action α} {r : Ref} {i choice : Nat}
  {x y : Record α} {starts : Nat} {results : List (Except Failure α)}

/-- The result with which the body of a record ends at a step. -/
def bodyResults (r : Ref) (s : System α) (a : Action α) (_ : System α) :
    List (Except Failure α) :=
  match a with
  | .bodyEnds j result => if s.pool.phase? j = some (.running r) then [result] else []
  | _ => []

/-- How far a record has come that is run once: whether its cancellation has been asked for, whether
its outcome has been taken, how often its body has been started, and the results with which its
body has ended. -/
inductive Course (s : System α) (r : Ref) :
    Bool → Bool → Nat → List (Except Failure α) → Prop where
  | waits {x : Record α} {starts : Nat} : s.record? r = some x → x.state = .pending →
      starts + s.startsLeft r = 1 → Course s r false false starts []
  | runs {x : Record α} {starts : Nat} (asked : Bool) : s.record? r = some x →
      x.state = .running → starts + s.startsLeft r = 1 → Course s r asked false starts []
  | ended {x : Record α} (asked taken : Bool) (result : Except Failure α) :
      s.record? r = some x → x.state = stateAfter result →
      x.outcome = (if taken then none else some (outcomeAfter result)) → s.bodies r = 0 →
      Course s r asked taken 1 [result]
  | cancelled {x : Record α} : s.record? r = some x → x.state = .cancelled → s.bodies r = 0 →
      Course s r true false 0 []

/-- No worker is at the body of a record whose outcome has been taken. -/
theorem Course.bodies_of_taken {asked : Bool} (h : Course s r asked true starts results) :
    s.bodies r = 0 := by
  cases h with
  | ended _ _ _ _ _ _ hbodies => exact hbodies

theorem bodyResults_of_bodies (h : s.bodies r = 0) : bodyResults r s a t = [] := by
  cases a with
  | bodyEnds j result =>
    refine if_neg fun hphase => ?_
    have hpos : 0 < s.bodies r := Pool.tally_pos hphase (beq_self_eq_true (some r))
    omega
  | _ => rfl

/-! ## Steps of others -/

/-- What a step of others does to a record that belongs to a batch: it is the step of a worker, and
the body may end with a result. -/
inductive Works (s : System α) (r : Ref) (x : Record α) :
    List (Except Failure α) → Record α → Prop where
  | spared : Works s r x [] x
  | began : x.state = .pending → Works s r x [] { x with state := .running }
  | entered {j : Nat} : s.pool.phase? j = some (.begun r) → Works s r x [] x.enterBody.1
  | ended {j : Nat} (result : Except Failure α) : s.pool.phase? j = some (.running r) →
      Works s r x [result] (x.complete s.clockEnd s.now (.ofExcept result)).1

theorem PumpMove.stopping_records (h : PumpMove s t) (hstop : s.pump = some .stopping) :
    t.records = s.afterShutdown := by
  cases h with
  | stopped _ _ => rfl
  | passedOver hpump hrecord _ _ =>
    rw [hstop] at hpump
    cases hpump
    cases hrecord
  | wentOn hpump hgoes =>
    rw [hstop] at hpump
    cases hpump
    obtain ⟨r', hrecord, -⟩ := hgoes.record
    cases hrecord
  | took hpump | idled hpump | drained hpump | gaveUp hpump | handedOver _ hpump | refused _ hpump
  | unwound _ hpump | withdrew hpump | noted hpump | rejected hpump | postponed hpump
  | returned hpump | sawDrained hpump | concluded hpump =>
    rw [hstop] at hpump
    cases hpump

/-- The pump does nothing to a record that is kept from it, not even when it closes the pool. -/
theorem PumpMove.spares_sheltered (h : PumpMove s t) (hr : Sheltered s r)
    (hx : s.record? r = some x) : t.record? r = some x := by
  by_cases hstop : s.pump = some .stopping
  · rw [record?, h.stopping_records hstop]
    rcases afterShutdown_record hx with hsame | ⟨hqueued, -⟩
    · exact hsame
    · unfold afterShutdown
      split
      next hanswer => exact absurd hanswer (hr.manned.not_stranded hqueued)
      next => exact hx
  · exact (h.untouched hr.unpumped hstop).trans hx

theorem WorkerMove.works (h : WorkerMove s a t) (hs : Reachable s) (honce : s.repeats r = false)
    (hx : s.record? r = some x) :
    ∃ y, t.record? r = some y ∧ Works s r x (bodyResults r s a t) y := by
  have hspared : ∀ {r' : Ref} {g : Record α → Record α}, t.records = s.records.modify r' g →
      r' ≠ r → ∃ y, t.record? r = some y ∧ Works s r x [] y := by
    intro r' g ht hne
    refine ⟨x, ?_, .spared⟩
    rw [record?_of_modify ht, if_neg hne, hx]
  have hchanged : ∀ {g : Record α → Record α}, t.records = s.records.modify r g →
      t.record? r = some (g x) := by
    intro g ht
    rw [record?_of_modify ht, if_pos rfl, hx, Option.map_some]
  -- No worker puts back what runs once.
  have hreturned : ∀ {j : Nat} {r' : Ref} {phase : WorkerPhase}, s.pool.phase? j = some phase →
      (∀ r, phase.returns r = (r' == r)) → r' ≠ r := by
    rintro j r' phase hphase hreturns rfl
    have hnot := Pool.tally_eq_zero_iff.mp (hs.returns_once honce) j _ hphase
    rw [hreturns, beq_self_eq_true] at hnot
    cases hnot
  have hended : ∀ {j : Nat} {r' : Ref} (result : Except Failure α),
      s.pool.phase? j = some (.running r') →
      t.records = s.records.modify r' (fun record =>
        (record.complete s.clockEnd s.now (.ofExcept result)).1) →
      ∃ y, t.record? r = some y ∧ Works s r x (bodyResults r s (.bodyEnds j result) t) y := by
    intro j r' result hphase ht
    by_cases hr : r' = r
    · subst hr
      rw [bodyResults, if_pos hphase]
      exact ⟨_, hchanged ht, .ended result hphase⟩
    · have hnot : s.pool.phase? j ≠ some (.running r) := by
        rw [hphase]
        simpa using hr
      rw [bodyResults, if_neg hnot]
      exact hspared ht hr
  cases h with
  | @began j r' x' hphase hx' hstate =>
    by_cases hr : r' = r
    · subst hr
      obtain rfl := Option.some.inj (hx.symm.trans hx')
      exact ⟨_, hchanged rfl, .began hstate⟩
    · exact hspared rfl hr
  | @entered j r' hphase _ =>
    by_cases hr : r' = r
    · subst hr
      exact ⟨_, hchanged rfl, .entered hphase⟩
    · exact hspared rfl hr
  | spent hphase hbody =>
    rw [hs.body_left hphase] at hbody
    cases hbody
  | finished hphase _ => exact hended _ hphase rfl
  | rescheduled hphase _ _ => exact hended _ hphase rfl
  | gaveUp hphase => exact hspared rfl (hreturned hphase fun _ => rfl)
  | rejected hphase => exact hspared rfl (hreturned hphase fun _ => rfl)
  | _ => exact ⟨x, hx, .spared⟩

/-- A step of others does to the record of a batch what a worker does to it, or nothing. -/
theorem Reserved.works (h : Reserved s i r) (hs : Reachable s) (hx : s.record? r = some x)
    (hstep : s.step a = some s') (hother : ∀ choice, a ≠ .call i choice) :
    ∃ y, s'.record? r = some y ∧ Works s r x (bodyResults r s a s') y := by
  have hspared : bodyResults r s a s' = [] → s'.record? r = some x →
      ∃ y, s'.record? r = some y ∧ Works s r x (bodyResults r s a s') y := by
    intro hnone hsame
    rw [hnone]
    exact ⟨x, hsame, .spared⟩
  rcases step_calls hstep with
    ⟨-, hbegin, hcall, hrefused⟩ | ⟨request, rfl, -⟩ |
      ⟨j, choice, call, u, call', rfl, hj, hstage, rfl⟩ |
      ⟨j, reason, call, u, call', rfl, hj, hrefusal, rfl⟩
  · obtain ⟨t, hmove, hcore⟩ := step_move hstep
    have hrecord : s'.record? r = t.record? r := congrArg (fun w => w.record? r) hcore
    cases hmove with
    | begun _ => exact absurd rfl (hbegin _)
    | called _ _ => exact absurd rfl (hcall _ _)
    | callRefused _ _ => exact absurd rfl (hrefused _ _)
    | pumped hpump | pumpIdled hpump | pumpFaulted hpump =>
      exact hspared rfl (hrecord.trans (hpump.spares_sheltered h.sheltered hx))
    | worked hworker =>
      rw [hrecord]
      exact hworker.works hs h.once hx
    | declined hdeclined =>
      refine hspared ?_ (hrecord.trans hx)
      rcases hdeclined with rfl | ⟨operation, rfl⟩ <;> rfl
    | _ => exact hspared rfl (hrecord.trans hx)
  · rw [System.step] at hstep
    split at hstep <;> cases hstep
    exact hspared rfl (begin_record hx)
  · refine hspared rfl ((stageStep_record hstage h.made fun hhandling => ?_).trans hx)
    obtain rfl := h.sole hj (Call.concerns_of_handling hhandling)
    exact hother choice rfl
  · exact hspared rfl (by cases hrefusal <;> exact hx)

/-! ## The course of a record -/

theorem Reachable.startsLeft_kept (hs : Reachable s) (hstep : s.step a = some s')
    (honce : s'.repeats r = false)
    (hstate : s.isPending r = true → s'.state? r = some .pending ∨ s'.state? r = some .running) :
    s'.startsLeft r + (startsBody r s a s').toNat = s.startsLeft r := by
  have hspends := (hs.step_spends hstep honce).2
  have hnot : takesBack r s a s' = false := by
    rw [takesBack]
    cases hpending : s.isPending r with
    | false => rfl
    | true => rcases hstate hpending with hafter | hafter <;> rw [hafter] <;> rfl
  rw [hnot, Bool.toNat_false] at hspends
  exact hspends

theorem step_bodies_le (hstep : s.step a = some s') (hnot : s.isPending r = false) :
    s'.bodies r ≤ s.bodies r :=
  step_of_move (P := fun s' => s'.bodies r ≤ s.bodies r) (fun _ => rfl)
    (fun hmove => hmove.bodies_le hnot) hstep

theorem not_pending_of_state (hx : s.record? r = some x) (hstate : x.state ≠ .pending) :
    s.isPending r = false := by
  rw [isPending, state?, hx]
  exact beq_false_of_ne fun h => hstate (Option.some.inj h)

theorem state?_of_record (hx : s.record? r = some x) : s.state? r = some x.state := by
  rw [state?, hx, Option.map_some]

/-- A worker leaves the body of a record when it ends. -/
theorem step_bodies_of_end (hstep : s.step a = some s') (hend : bodyResults r s a s' ≠ []) :
    s'.bodies r + 1 = s.bodies r := by
  cases a with
  | bodyEnds j result =>
    have hphase : s.pool.phase? j = some (.running r) := by
      by_contra hnot
      exact hend (if_neg hnot)
    refine step_of_move (P := fun s' => s'.bodies r + 1 = s.bodies r) (fun _ => rfl) ?_ hstep
    intro t hmove
    have hleaves : ∀ {next : WorkerPhase}, next.body? = none →
        t.pool = s.pool.setPhase j next → t.bodies r + 1 = s.bodies r := by
      intro next hnone hpool
      have hbalance := bodies_setPhase hphase hpool r
      rw [hnone, show (WorkerPhase.running r).body? = some r from rfl, beq_self_eq_true] at hbalance
      exact hbalance
    cases hmove with
    | worked hworker =>
      cases hworker with
      | finished hphase' _ =>
        obtain rfl := WorkerPhase.running.inj (Option.some.inj (hphase.symm.trans hphase'))
        exact hleaves rfl rfl
      | rescheduled hphase' _ _ =>
        obtain rfl := WorkerPhase.running.inj (Option.some.inj (hphase.symm.trans hphase'))
        exact hleaves rfl rfl
    | declined hdeclined => rcases hdeclined with heq | ⟨operation, heq⟩ <;> cases heq
  | _ => exact absurd rfl hend

theorem Course.record {asked taken : Bool} (h : Course s r asked taken starts results) :
    ∃ x, s.record? r = some x := by
  cases h with
  | waits hx | runs _ hx | ended _ _ _ hx | cancelled hx => exact ⟨_, hx⟩

/-- No worker is at the body of a record that has come to its end, and none comes back. -/
theorem bodies_kept (hstep : s.step a = some s') (hx : s.record? r = some x)
    (hstate : x.state ≠ .pending) (hbodies : s.bodies r = 0) : s'.bodies r = 0 := by
  have hle := step_bodies_le hstep (not_pending_of_state hx hstate)
  omega

/-- No start is left to a record that has come to its end, if no worker is at its body. -/
theorem startsLeft_of_final (hx : s.record? r = some x) (hfinal : x.state.isFinal = true)
    (hbodies : s.bodies r = 0) : s.startsLeft r = 0 := by
  have hentering := entering_le_bodies s r
  have hwaits : s.waits r = false := by
    rw [waits, state?_of_record hx, Option.all_some]
    refine beq_false_of_ne fun hstate => ?_
    rw [hstate] at hfinal
    cases hfinal
  rw [startsLeft, hwaits, Bool.toNat_false]
  omega

/-- A record that waits has not been run. -/
theorem Course.of_pending {asked taken : Bool} (h : Course s r asked taken starts results)
    (hx : s.record? r = some x) (hstate : x.state = .pending) :
    asked = false ∧ taken = false ∧ results = [] ∧ starts + s.startsLeft r = 1 := by
  cases h with
  | waits _ _ hcount => exact ⟨rfl, rfl, rfl, hcount⟩
  | runs _ hx' hstate' =>
    obtain rfl := Option.some.inj (hx.symm.trans hx')
    rw [hstate] at hstate'
    cases hstate'
  | ended _ _ result hx' hstate' =>
    obtain rfl := Option.some.inj (hx.symm.trans hx')
    exact absurd (hstate'.symm.trans hstate) (stateAfter_ne_pending result)
  | cancelled hx' hstate' =>
    obtain rfl := Option.some.inj (hx.symm.trans hx')
    rw [hstate] at hstate'
    cases hstate'

/-- A record at whose body a worker is runs. -/
theorem Course.of_body {asked taken : Bool} (h : Course s r asked taken starts results)
    (hs : Reachable s) (hx : s.record? r = some x) {j : Nat} {phase : WorkerPhase}
    (hphase : s.pool.phase? j = some phase) (hbody : phase.body? = some r) :
    taken = false ∧ results = [] ∧ x.state = .running ∧ starts + s.startsLeft r = 1 := by
  have hpos : 0 < s.bodies r := Pool.tally_pos hphase (by rw [hbody, beq_self_eq_true])
  cases h with
  | waits hx' hstate _ =>
    have hzero := (hs.attended r).waiting ((state?_of_record hx').trans (congrArg some hstate))
    omega
  | runs _ hx' hstate hcount =>
    obtain rfl := Option.some.inj (hx.symm.trans hx')
    exact ⟨rfl, rfl, hstate, hcount⟩
  | ended _ _ _ _ _ _ hbodies => omega
  | cancelled _ _ hbodies => omega

/-- A record that is left alone stays where it is. -/
theorem Course.kept {asked taken : Bool} (h : Course s r asked taken starts results)
    (hs : Reachable s) (hstep : s.step a = some s') (honce : s'.repeats r = false)
    (hsame : s'.record? r = s.record? r) :
    Course s' r asked taken (starts + (startsBody r s a s').toNat) results := by
  have hleft := hs.startsLeft_kept hstep honce
  cases h with
  | @waits x _ hx hstate hcount =>
    have hy := hsame.trans hx
    have hkept := hleft fun _ => .inl ((state?_of_record hy).trans (congrArg some hstate))
    exact .waits hy hstate (by omega)
  | @runs x _ asked hx hstate hcount =>
    have hy := hsame.trans hx
    have hkept := hleft fun _ => .inr ((state?_of_record hy).trans (congrArg some hstate))
    exact .runs asked hy hstate (by omega)
  | ended asked taken result hx hstate houtcome hbodies =>
    rw [startsBody_of_bodies hbodies]
    exact .ended asked taken result (hsame.trans hx) hstate houtcome
      (bodies_kept hstep hx (hstate ▸ stateAfter_ne_pending result) hbodies)
  | cancelled hx hstate hbodies =>
    rw [startsBody_of_bodies hbodies]
    refine .cancelled (hsame.trans hx) hstate (bodies_kept hstep hx ?_ hbodies)
    rw [hstate]
    decide

/-- A record goes on in its course while others take their steps. -/
theorem Course.step {asked taken : Bool} (h : Course s r asked taken starts results)
    (hs : Reachable s) (hreserved : Reserved s i r) (hstep : s.step a = some s')
    (hother : ∀ choice, a ≠ .call i choice) (honce : s'.repeats r = false) :
    Course s' r asked taken (starts + (startsBody r s a s').toNat)
      (results ++ bodyResults r s a s') := by
  obtain ⟨x, hx⟩ := h.record
  obtain ⟨y, hy, hworks⟩ := hreserved.works hs hx hstep hother
  have hleft := hs.startsLeft_kept hstep honce
  have hend := step_bodies_of_end (r := r) hstep
  generalize bodyResults r s a s' = new at hworks hend
  cases hworks with
  | spared =>
    rw [List.append_nil]
    exact h.kept hs hstep honce (hy.trans hx.symm)
  | began hpending =>
    obtain ⟨rfl, rfl, rfl, hcount⟩ := h.of_pending hx hpending
    have hkept := hleft fun _ => .inr (state?_of_record hy)
    exact .runs false hy rfl (by omega)
  | entered hphase =>
    obtain ⟨rfl, rfl, hstate, hcount⟩ := h.of_body hs hx hphase rfl
    have hsame := (Record.enterBody_enters _).state.trans hstate
    have hkept := hleft fun _ => .inr ((state?_of_record hy).trans (congrArg some hsame))
    exact .runs asked hy hsame (by omega)
  | ended result hphase =>
    obtain ⟨rfl, rfl, hstate, hcount⟩ := h.of_body hs hx hphase rfl
    have honce' : x.repeats = false := by
      have hr := hreserved.once
      rw [repeats_of_record hx] at hr
      exact hr
    rw [x.complete_running hstate honce'] at hy
    have hzero : s'.bodies r = 0 := by
      have hone := (hs.attended r).running ((state?_of_record hx).trans (congrArg some hstate))
      have hleaves := hend (List.cons_ne_nil _ _)
      omega
    -- the one start has been made, since none is left
    have hstarted : starts + (startsBody r s a s').toNat = 1 := by
      have hnot : s.isPending r = false := not_pending_of_state hx (by rw [hstate]; decide)
      have hkept := hleft fun hpending => by rw [hnot] at hpending; cases hpending
      have hspent := startsLeft_of_final hy (isFinal_stateAfter result) hzero
      omega
    rw [hstarted]
    exact .ended asked false result hy rfl rfl hzero

/-! ## Steps of the batch -/

theorem call_bodies (hstep : s.step (.call i choice) = some s') : s'.bodies r = s.bodies r := by
  refine step_of_move (P := fun s' => s'.bodies r = s.bodies r) (fun _ => rfl) ?_ hstep
  intro t hmove
  cases hmove with
  | called _ hcall => exact bodies_calm (t := _) hcall.callsPool r
  | worked hworker => cases hworker
  | declined hdeclined => rcases hdeclined with heq | ⟨operation, heq⟩ <;> cases heq

/-- The batch asks for the cancellation of a record: one that waits is cancelled, and any other goes
on. -/
theorem Course.ask (h : Course s r false false starts results) (hs : Reachable s)
    (hstep : s.step (.call i choice) = some s') (honce : s'.repeats r = false)
    (hcancel : s'.record? r = (s.record? r).map fun x => (x.cancel false).1) :
    Course s' r true false starts results := by
  have hbodies' : s'.bodies r = s.bodies r := call_bodies hstep
  cases h with
  | @waits x _ hx hstate hcount =>
    have hcancelled : s'.record? r = some (x.finish .cancelled (.error .cancelled)) := by
      rw [hcancel, hx, Option.map_some, Record.cancel, hstate]
    have hzero := (hs.attended r).waiting ((state?_of_record hx).trans (congrArg some hstate))
    have hwaits : s.startsLeft r = 1 + s.entering r := by
      rw [startsLeft, System.waits, state?_of_record hx, hstate]
      rfl
    obtain rfl : starts = 0 := by omega
    exact .cancelled hcancelled rfl (hbodies'.trans hzero)
  | @runs x _ _ hx hstate hcount =>
    have honce' := (hs.step_spends hstep honce).1
    rw [repeats_of_record hx] at honce'
    have hy : s'.record? r = some x := by
      rw [hcancel, hx, Option.map_some, Record.cancel, hstate, honce']
      rfl
    have hkept := hs.startsLeft_kept hstep honce fun _ =>
      .inr ((state?_of_record hy).trans (congrArg some hstate))
    rw [show startsBody r s (.call i choice) s' = false from rfl, Bool.toNat_false] at hkept
    exact .runs true hy hstate (by omega)
  | @ended x _ _ result hx hstate houtcome hbodies =>
    have hy : s'.record? r = some x := by
      rw [hcancel, hx, Option.map_some, Record.cancel, hstate]
      cases result <;> rfl
    exact .ended true false result hy hstate houtcome (hbodies'.trans hbodies)

/-- The batch takes the outcome of a record that is final. -/
theorem Course.collect (h : Course s r false false starts results)
    (hstep : s.step (.call i choice) = some s') (hfinal : s.isFinal r = true)
    (hcollect : s'.record? r = (s.record? r).map (·.collectOutcome.1)) :
    ∃ result, (s.takeAnswer r).2 = outcomeAfter result ∧ starts = 1 ∧ results = [result] ∧
      Course s' r false true starts results := by
  have hbodies' : s'.bodies r = s.bodies r := call_bodies hstep
  obtain ⟨x, hx, hxfinal⟩ := isFinal_iff.mp hfinal
  rw [Record.isFinal] at hxfinal
  cases h with
  | waits hx' hstate _ =>
    obtain rfl := Option.some.inj (hx.symm.trans hx')
    rw [hstate] at hxfinal
    cases hxfinal
  | runs _ hx' hstate _ =>
    obtain rfl := Option.some.inj (hx.symm.trans hx')
    rw [hstate] at hxfinal
    cases hxfinal
  | ended _ _ result hx' hstate houtcome hbodies =>
    obtain rfl := Option.some.inj (hx.symm.trans hx')
    refine ⟨result, ?_, rfl, rfl, ?_⟩
    · rw [takeAnswer, collectOutcome, hx, Option.bind_some, Record.collectOutcome, houtcome]
      rfl
    · have hy : s'.record? r = some x.collectOutcome.1 := by rw [hcollect, hx, Option.map_some]
      exact .ended false true result hy hstate rfl (hbodies'.trans hbodies)

/-- A record that the batch has just made waits, and its body has not been started. -/
theorem Course.of_created (hs : Reachable s) (hstep : s.step a = some s')
    (hx : s'.record? r = some x) (hstate : x.state = .pending) :
    Course s' r false false 0 [] := by
  have hzero := ((hs.step a hstep).attended r).waiting
    ((state?_of_record hx).trans (congrArg some hstate))
  have hentering := entering_le_bodies s' r
  refine .waits hx hstate ?_
  have hwaits : s'.waits r = true := by
    rw [System.waits, state?_of_record hx, hstate]
    rfl
  rw [startsLeft, hwaits, Bool.toNat_true]
  omega

end System

end TaskScheduler
