import TaskScheduler.Proofs.HandoffFault
import TaskScheduler.Proofs.Pool.Starts

/-
  A panic in a hand-off stays with the record that is handed over.

  Up to the panic the hand-off changes nothing but the pool, and that only if it is the factory that
  panics, after the record has been put into the run queue (`NearPanic`). `AtPanic`: the moment at
  which the panic has come, which every turn with a panic in it goes through (`Turn.at_panic`); the
  rest of the turn is the clean-up. The record that the pump has taken was pending, or had been
  cancelled in the delay queue, or rejected there because no pump could be started for it
  (`Entered`), so the end of the turn is known (`AtPanic.fate`).
-/
namespace TaskScheduler

namespace Pool

variable {p same : Pool} {r : Ref}

theorem withdraw_absent (h : r ∉ p.queue) : (p.withdraw r).1 = p := by
  rw [withdraw, if_neg (by simpa using h)]

/-- What was put in last, and not by others before, is taken out without a trace; only the factory
has been asked. -/
theorem withdraw_pushed (h : r ∉ p.queue)
    (hmissed : Missed { p with queue := p.queue ++ [r] } same) :
    (same.withdraw r).1 = p.missed := by
  rw [hmissed, withdraw, if_pos (by simp)]
  simp only [List.erase_append_right _ h, List.erase_cons_head, List.append_nil]
  rfl

theorem missed_of_unwound {choice : Nat} {failure : Failure}
    (h : (p.execute r choice).answer = .unwound failure) :
    Missed { p with queue := p.queue ++ [r] } (p.execute r choice).pool := by
  have hres := execute_result p r choice
  generalize p.execute r choice = e at hres h
  cases hres with
  | unwound _ _ _ hmissed _ => exact hmissed
  | _ => cases h

end Pool

namespace System

variable {α : Type} {s s' t u v : System α} {a : Action α} {r : Ref} {phase : PumpPhase}
  {actions : List (Action α)}

/-! ## Up to the panic -/

/-- A panic goes through the hand-off of the record. -/
def panics (r : Ref) (s : System α) (_ : Action α) (t : System α) : Bool :=
  !s.pump.any (·.isFaulted r) && t.pump.any (·.isFaulted r)

/-- What a hand-off has done to the pool when a panic goes through it: nothing, or it has put the
record into the run queue and asked the factory for a worker. -/
def Pushed (r : Ref) (s t : System α) : Prop :=
  t.pool = s.pool ∨ Pool.Missed { s.pool with queue := s.pool.queue ++ [r] } t.pool

/-- A section that leads to where a panic may come, or has come, leads from where one may come, and
changes nothing but the pool. -/
structure NearPanic (r : Ref) (next : PumpPhase) (s t : System α) : Prop where
  came : s.pump.any (·.canFault) = true
  records : t.records = s.records
  queue : t.queue = s.queue
  pool : t.pool = s.pool ∨ (next.isFaulted r = true ∧ Pushed r s t)

theorem PumpMove.near_panic {next : PumpPhase} (h : PumpMove s t) (hhand : 0 < s.pumpHolds r)
    (ht : t.pump = some next) (hnext : next.canFault = true ∨ next.isFaulted r = true) :
    NearPanic r next s t := by
  have hnone : next.canFault = false → next.isFaulted r = false → NearPanic r next s t := by
    intro hcan hfaulted
    rw [hcan, hfaulted] at hnext
    rcases hnext with hnext | hnext <;> cases hnext
  cases h with
  | took hpump _ _ =>
    rw [pumpHolds_of_none (by rw [hpump]; rfl)] at hhand
    cases hhand
  | @wentOn phase next hpump hgoes =>
    cases Option.some.inj ht
    cases hgoes with
    | failed _ => exact hnone rfl rfl
    | faulted failure hcan _ => exact ⟨by rw [hpump]; exact hcan, rfl, rfl, .inl rfl⟩
    | _ => exact ⟨by rw [hpump]; rfl, rfl, rfl, .inl rfl⟩
  | @unwound r' failure choice hpump hanswer =>
    cases Option.some.inj ht
    have hr : r' = r := by
      rcases hnext with hnext | hnext
      · cases hnext
      · exact eq_of_beq hnext
    subst hr
    exact ⟨by rw [hpump]; rfl, rfl, rfl,
      .inr ⟨beq_self_eq_true _, .inr (Pool.missed_of_unwound hanswer)⟩⟩
  | noted _ hafter =>
    cases Option.some.inj ht
    cases hafter <;> exact hnone rfl rfl
  | stopped _ hafter =>
    rcases hafter with rfl | ⟨_, rfl⟩ <;>
      cases Option.some.inj ht <;>
      exact hnone rfl rfl
  | idled | concluded => cases ht
  | _ =>
    cases Option.some.inj ht
    exact hnone rfl rfl

theorem Move.near_panic {next : PumpPhase} (h : Move s a t) (hhand : 0 < s.pumpHolds r)
    (ht : t.pump = some next) (hnext : next.canFault = true ∨ next.isFaulted r = true) :
    s.pump = some next ∨ NearPanic r next s t := by
  have hphase : next ≠ .waiting := by
    rintro rfl
    rcases hnext with hnext | hnext <;> cases hnext
  exact (h.pump_from ht hphase).imp_right fun hmove => hmove.near_panic hhand ht hnext

theorem NearPanic.congr {next : PumpPhase} (h : NearPanic r next s t) (hcore : u.core = t.core) :
    NearPanic r next s u := by
  have hpool : u.pool = t.pool := congrArg (fun w => w.pool) hcore
  refine ⟨h.came, (congrArg (fun w => w.records) hcore).trans h.records,
    (congrArg (fun w => w.queue) hcore).trans h.queue, ?_⟩
  rw [Pushed, hpool]
  exact h.pool

theorem step_near_panic {next : PumpPhase} (hstep : s.step a = some s')
    (hhand : 0 < s.pumpHolds r) (hnext : s'.pump = some next)
    (hnear : next.canFault = true ∨ next.isFaulted r = true) :
    s.pump = some next ∨ NearPanic r next s s' := by
  obtain ⟨t, hmove, hcore⟩ := step_move hstep
  have hpump : t.pump = some next := (congrArg (fun w => w.pump) hcore).symm.trans hnext
  exact (hmove.near_panic hhand hpump hnear).imp_right (·.congr hcore)

/-- The same, for a step that is not the pump's or a panic in it. -/
theorem step_before_panic {next : PumpPhase} (hstep : s.step a = some s')
    (hpump : s.pump = some phase) (hrecord : phase.record? = some r) (hnext : s'.pump = some next)
    (hnear : next.canFault = true ∨ next.isFaulted r = true) :
    (a.isPump = false ∧ next = phase) ∨ NearPanic r next s s' := by
  have hhand : 0 < s.pumpHolds r := pumpHolds_pos_iff.mpr ⟨_, hpump, hrecord⟩
  have hmoved : ∀ {t : System α}, PumpMove s t → s'.core = t.core → NearPanic r next s s' :=
    fun hmove hcore => (hmove.near_panic hhand
      ((congrArg (fun w => w.pump) hcore).symm.trans hnext) hnear).congr hcore
  cases step_pump hstep hpump (by rintro rfl; cases hrecord) with
  | other ha hkept => exact .inl ⟨ha, Option.some.inj (hnext.symm.trans hkept)⟩
  | own hown =>
    obtain ⟨t, hmove, hcore⟩ := pumpStep_move hown
    exact .inr (hmoved hmove hcore)
  | panic _ hfault =>
    obtain ⟨t, hmove, hcore⟩ := pumpFault_move hfault
    exact .inr (hmoved hmove hcore)

/-- Once the pump is past the hand-off, no panic comes in this turn. -/
theorem Turn.no_panic (h : Turn r s actions t) (hpast : s.pump.any (·.canFault) = false) :
    s.occurrences (panics r) actions = 0 := by
  induction h with
  | ended _ => rfl
  | @goesOn s s' t a rest hhand hstep _ ih =>
    have hnear : ∀ next, s'.pump = some next →
        next.canFault = true ∨ next.isFaulted r = true → s.pump = some next := by
      intro next hnext hnear
      refine (step_near_panic hstep hhand hnext hnear).resolve_right fun hnear => ?_
      rw [hnear.came] at hpast
      cases hpast
    have hpast' : s'.pump.any (·.canFault) = false := by
      refine eq_false_of_ne_true fun hcan => ?_
      obtain ⟨next, hnext, hcan'⟩ := (Option.any_eq_true _ _).mp hcan
      rw [hnear next hnext (.inl hcan'), Option.any_some, hcan'] at hpast
      cases hpast
    have hevent : panics r s a s' = false := by
      refine eq_false_of_ne_true fun hpanics => ?_
      rw [panics, Bool.and_eq_true] at hpanics
      obtain ⟨next, hnext, hfaulted⟩ := (Option.any_eq_true _ _).mp hpanics.2
      rw [hnear next hnext (.inr hfaulted), Option.any_some, hfaulted] at hpanics
      cases hpanics.1
    rw [occurrences_cons hstep, hevent, ih hpast']
    rfl

/-- What does not happen up to a panic in the hand-off of the record. -/
def OnlyAfterPanic (r : Ref) (event : System α → Action α → System α → Bool) : Prop :=
  ∀ s a s', s.pump.any (·.canFault) = true →
    s'.pump.any (·.canFault) = true ∨ s'.pump.any (·.isFaulted r) = true → event s a s' = false

theorem onlyAfterPanic_fails (r : Ref) :
    OnlyAfterPanic r (fails r : System α → Action α → System α → Bool) := by
  intro s a s' _ hnear
  have hnot : s'.failing r = false := by
    simp only [Option.any_eq_true] at hnear
    obtain ⟨phase, hpump, hphase⟩ | ⟨phase, hpump, hphase⟩ := hnear <;>
      rw [failing, hpump] <;> cases phase <;> first | rfl | cases hphase
  rw [fails, hnot, Bool.and_false]

theorem onlyAfterPanic_findsGone (r : Ref) :
    OnlyAfterPanic r (findsGone r : System α → Action α → System α → Bool) := by
  intro s a s' hcan _
  obtain ⟨phase, hpump, hphase⟩ := (Option.any_eq_true _ _).mp hcan
  have hnot : phase.isWithdrawn r = false := by cases phase <;> first | rfl | cases hphase
  rw [findsGone, hpump, Option.any_some, hnot, Bool.and_false, Bool.false_and]

/-- The moment at which a panic has gone through the hand-off of a record, in a turn from `s` to
`t`. -/
structure AtPanic (r : Ref) (s : System α) (actions : List (Action α)) (t u : System α)
    (later : List (Action α)) : Prop where
  faulted : ∃ failure, u.pump = some (.faulted r failure)
  reachable : Reachable u
  tame : Tame u r
  spared : Spared s u r
  turn : Turn r u later t
  left : u.occurrences (takesUpFaulted r) later = 0
  events : ∀ event, OnlyAfterPanic r event →
    s.occurrences event actions = u.occurrences event later
  quiet : Quiet r s actions → Quiet r u later ∧ u.queue = s.queue ∧
    (∀ r', r' ≠ r → u.record? r' = s.record? r') ∧ Pushed r s u

/-- A step of a turn before the panic. -/
theorem AtPanic.cons {later rest : List (Action α)} (h : AtPanic r s' rest t u later)
    (hs : Reachable s) (htame : Tame s r) (hpump : s.pump = some phase)
    (hrecord : phase.record? = some r) (hcan : phase.canFault = true)
    (hstep : s.step a = some s') (hcan' : s'.pump.any (·.canFault) = true)
    (hnear : a.isPump = false ∨ ∃ next, NearPanic r next s s' ∧ s'.pool = s.pool) :
    AtPanic r s (a :: rest) t u later where
  faulted := h.faulted
  reachable := h.reachable
  tame := h.tame
  spared := by
    rcases hnear with ha | ⟨next, hnear, -⟩
    · exact (step_spared hstep hs ha htame hpump hrecord).trans h.spared
    · exact (Spared.of_records hstep (by rw [hpump]; nofun) hnear.records).trans h.spared
  turn := h.turn
  left := h.left
  events event hevent := by
    rw [occurrences_cons hstep, hevent s a s' (by rw [hpump]; exact hcan)
      (.inl hcan'), h.events event hevent]
    exact Nat.zero_add _
  quiet hquiet := by
    obtain ⟨hapart, hquiet'⟩ := hquiet s' hstep
    obtain ⟨hlater, hqueue, hothers, hpushed⟩ := h.quiet hquiet'
    rcases hnear with ha | ⟨next, hnear, hpool⟩
    · obtain ⟨hpool, hqueue', hothers'⟩ := hapart ha
      refine ⟨hlater, hqueue.trans hqueue', fun r' hr => (hothers r' hr).trans (hothers' r' hr), ?_⟩
      rw [Pushed, ← hpool]
      exact hpushed
    · refine ⟨hlater, hqueue.trans hnear.queue, fun r' hr => (hothers r' hr).trans ?_, ?_⟩
      · exact congrArg (·[r']?) hnear.records
      · rw [Pushed, ← hpool]
        exact hpushed

theorem Turn.at_panic (h : Turn r s actions t) (hs : Reachable s) (htame : Tame s r)
    (hpump : s.pump = some phase) (hrecord : phase.record? = some r)
    (hcan : phase.canFault = true) (hnot : s.occurrences (takesUpFaulted r) actions = 0)
    (hpanics : 0 < s.occurrences (panics r) actions) :
    ∃ u later, AtPanic r s actions t u later := by
  induction h generalizing phase with
  | ended _ => cases hpanics
  | @goesOn s s' t a rest hhand hstep hrest ih =>
    obtain ⟨hevent, hnot'⟩ := occurrences_cons_eq_zero hstep hnot
    have hs' := hs.step a hstep
    have htame' := htame.step hs hstep hevent
    cases hfaulted : s'.pump.any (·.isFaulted r) with
    | true =>
      obtain ⟨next, hnext, hfaulted'⟩ := (Option.any_eq_true _ _).mp hfaulted
      have hnear : NearPanic r next s s' := by
        refine (step_before_panic hstep hpump hrecord hnext (.inr hfaulted')).resolve_left ?_
        rintro ⟨-, rfl⟩
        cases next <;> first | cases hfaulted' | cases hcan
      refine ⟨s', rest, ⟨?_, hs', htame', .of_records hstep (by rw [hpump]; nofun) hnear.records,
        hrest, hnot', fun event hlate => ?_, fun hquiet => ?_⟩⟩
      · cases next with
        | faulted r' failure =>
          obtain rfl : r' = r := eq_of_beq hfaulted'
          exact ⟨failure, hnext⟩
        | _ => cases hfaulted'
      · have hnone : event s a s' = false :=
          hlate s a s' (by rw [hpump]; exact hcan) (.inr hfaulted)
        rw [occurrences_cons hstep, hnone]
        exact Nat.zero_add _
      · refine ⟨(hquiet s' hstep).2, hnear.queue, fun r' _ => congrArg (·[r']?) hnear.records, ?_⟩
        exact hnear.pool.elim .inl And.right
    | false =>
      have hlater : 0 < s'.occurrences (panics r) rest := by
        rw [occurrences_cons hstep, panics, hfaulted, Bool.and_false, Bool.toNat_false,
          Nat.zero_add] at hpanics
        exact hpanics
      cases hcan' : s'.pump.any (·.canFault) with
      | false =>
        rw [hrest.no_panic hcan'] at hlater
        cases hlater
      | true =>
        obtain ⟨next, hnext, hcan''⟩ := (Option.any_eq_true _ _).mp hcan'
        have hrecord' : next.record? = some r := by
          cases hrest with
          | ended _ => cases hlater
          | goesOn hhand' _ _ =>
            obtain ⟨next', hnext', hrecord'⟩ := pumpHolds_pos_iff.mp hhand'
            rw [Option.some.inj (hnext.symm.trans hnext')]
            exact hrecord'
        obtain ⟨u, later, hat⟩ := ih hs' htame' hnext hrecord' hcan'' hnot' hlater
        refine ⟨u, later, hat.cons hs htame hpump hrecord hcan hstep hcan' ?_⟩
        refine (step_before_panic hstep hpump hrecord hnext (.inl hcan'')).imp And.left ?_
        intro hnear
        refine ⟨next, hnear, hnear.pool.resolve_right fun hpushed => ?_⟩
        rw [hnext, Option.any_some, hpushed.1] at hfaulted
        cases hfaulted

/-! ## Which records the pump takes -/

/-- The record is in the delay queue only if it is pending, or has been cancelled there, or rejected
after a pump was refused. -/
def Entered (refused : Prop) (s : System α) (r : Ref) : Prop :=
  ∀ k, (k, r) ∈ s.queue.entries →
    s.state? r = some .pending ∨ s.state? r = some .cancelled ∨
      (refused ∧ s.state? r = some .failed)

theorem Tame.sole_of_entry {k : Key} (h : Tame s r) (he : (k, r) ∈ s.queue.entries) : Sole s r := by
  refine h.resolve_right fun hdangling => ?_
  exact DelayQueue.holds_eq_zero_iff.mp hdangling.alone.1 k he

theorem Entered.move {refused : Prop} (h : Entered refused s r) (hs : Reachable s)
    (htame : Tame s r) (hrefused : 0 < s.forsakers r → refused) (hmove : Move s a t) :
    Entered refused t r := by
  intro k he
  have hkept : ∀ {state : RecordState}, state.isFinal = true → s.state? r = some state →
      t.state? r = some state := by
    intro state hfinal hstate
    obtain ⟨x, hx, rfl⟩ := state?_eq_some.mp hstate
    obtain ⟨y, hy, hkeeps⟩ := hmove.keeps.kept hx
    exact state?_eq_some.mpr ⟨y, hy, hkeeps.final hfinal⟩
  rcases hmove.entersPending _ he with hold | ⟨hrecords, r', hpending, heq⟩
  · rcases h k hold with hpending | hcancelled | ⟨hwas, hfailed⟩
    · obtain ⟨x, hx, hstate⟩ := state?_eq_some.mp hpending
      obtain ⟨y, hy, hafter⟩ := hs.entry_record (htame.sole_of_entry hold) hmove hold hx hstate
      rcases hafter with hstate' | ⟨hstate', -⟩ | ⟨hstate', hcondemned⟩
      · exact .inl (state?_eq_some.mpr ⟨y, hy, hstate'⟩)
      · exact .inr (.inl (state?_eq_some.mpr ⟨y, hy, hstate'⟩))
      · refine .inr (.inr ⟨hrefused ?_, state?_eq_some.mpr ⟨y, hy, hstate'⟩⟩)
        exact Nat.lt_of_lt_of_le hcondemned (condemned_le_forsakers s r)
    · exact .inr (.inl (hkept rfl hcancelled))
    · exact .inr (.inr ⟨hwas, hkept rfl hfailed⟩)
  · cases heq
    exact .inl (state?_eq_some.mpr (isPending_iff.mp ((isPending_congr hrecords).trans hpending)))

theorem Entered.step {refused : Prop} (h : Entered refused s r) (hs : Reachable s)
    (htame : Tame s r) (hrefused : 0 < s.forsakers r → refused) (hstep : s.step a = some s') :
    Entered refused s' r :=
  step_of_move (P := fun s => Entered refused s r) (fun _ => rfl) (h.move hs htame hrefused) hstep

theorem Retrying.exec_entered (hs : Retrying s r) (hempty : s.queue.entries = [])
    (hnone : s.forsakers r = 0) (hrun : s.exec actions = some t)
    (hnot : s.occurrences (takesUpFaulted r) actions = 0) :
    Entered (0 < s.occurrences (refusesPumpFor r) actions) t r := by
  have hentered : ∀ refused : Prop, Entered refused s r := by
    intro refused k he
    rw [hempty] at he
    cases he
  by_cases hrefused : 0 < s.occurrences (refusesPumpFor r) actions
  · have hkept := exec_keeps_unless (P := fun s => Retrying s r ∧ Entered True s r)
      (fun ⟨hs, h⟩ hstep hevent =>
        ⟨hs.step hstep hevent, h.step hs.reachable hs.tame (fun _ => trivial) hstep⟩)
      ⟨hs, hentered True⟩ hrun hnot
    exact fun k he => (hkept.2 k he).imp_right (.imp_right (.imp_left fun _ => hrefused))
  · -- Without a refusal nobody ever comes to reject the record.
    have hgranted : s.occurrences (refusesPumpFor r) actions = 0 := by omega
    have hkept := exec_keeps_unless
      (P := fun s => Retrying s r ∧ s.forsakers r = 0 ∧ Entered False s r)
      (fun ⟨hs, hnone, h⟩ hstep hneither => by
        obtain ⟨hevent, hgranted⟩ := Bool.or_eq_false_iff.mp hneither
        exact ⟨hs.step hstep hevent, step_forsakers_eq_zero hstep hnone hgranted,
          h.step hs.reachable hs.tame (fun hpos => by omega) hstep⟩)
      ⟨hs, hnone, hentered False⟩ hrun (occurrences_or_eq_zero hnot hgranted)
    exact fun k he => (hkept.2.2 k he).imp_right (.imp_right (.imp_left False.elim))

/-- The pump takes the first entry, and does nothing else. -/
structure TakesFirst (r : Ref) (s t : System α) : Prop where
  entry : ∃ k, s.queue.entries = (k, r) :: t.queue.entries
  closed : t.queue.closed = s.queue.closed
  consumer : t.queue.consumerActive = s.queue.consumerActive
  pool : t.pool = s.pool
  records : t.records = s.records

theorem PumpMove.takes_first {early : Bool} (h : PumpMove s t)
    (ht : t.pump = some (.holding r early)) : TakesFirst r s t := by
  cases h with
  | @took k _ rest _ hentries _ =>
    cases Option.some.inj ht
    exact ⟨⟨k, hentries⟩, rfl, rfl, rfl, rfl⟩
  | @wentOn phase next hpump hgoes =>
    cases Option.some.inj ht
    generalize hnext : PumpPhase.holding r early = next at hgoes
    cases hgoes with
    | @decided r' early =>
      rcases s.pumpDecide_cases r' early with heq | ⟨_, heq⟩ | heq <;>
        cases hnext.trans heq
    | _ => cases hnext
  | noted _ hafter =>
    cases Option.some.inj ht
    cases hafter
  | stopped _ hnext => rcases hnext with rfl | ⟨_, rfl⟩ <;> cases ht
  | _ => cases ht

theorem step_takes_first {choice : Nat} {early : Bool} (hstep : s.step (.pump choice) = some s')
    (hpump : s'.pump = some (.holding r early)) : TakesFirst r s s' := by
  obtain ⟨t, hmove, hcore⟩ := pumpStep_move hstep
  obtain ⟨hentry, hclosed, hconsumer, hpool, hrecords⟩ :=
    hmove.takes_first ((congrArg (fun w => w.pump) hcore).symm.trans hpump)
  have hqueue : s'.queue = t.queue := congrArg (fun w => w.queue) hcore
  exact ⟨hqueue ▸ hentry, hqueue ▸ hclosed, hqueue ▸ hconsumer,
    (congrArg (fun w => w.pool) hcore).trans hpool,
    (congrArg (fun w => w.records) hcore).trans hrecords⟩

theorem TakesFirst.spares (h : TakesFirst r s t) : Spares r s t := by
  obtain ⟨k, hentries⟩ := h.entry
  refine ⟨?_, h.closed, h.consumer, fun r' _ => congrArg (·[r']?) h.records⟩
  rw [hentries, List.filter_cons_of_neg (by simp)]

/-! ## What becomes of the record -/

/-- What has become of a record at the end of a turn in which its hand-off has panicked. It was to
be its `n`-th failure. -/
inductive Fate (r : Ref) (n : Nat) (s t : System α) : Prop where
  | cancelled : t.state? r = some .cancelled → t.places r = 0 → Fate r n s t
  | refused (failure : Failure) : s.config.retryLimit.toNat ≤ n → t.failures r = n →
      Refused t r (refusal n ("hand-off " ++ failure.text)) → Fate r n s t
  | putOff : n < s.config.retryLimit.toNat → t.failures r = n →
      PutOff s t r (s.config.backoffAfter n) → Fate r n s t

theorem PutOff.since {backoff : Duration} (h : PutOff u t r backoff) (hspared : Spared s u r) :
    PutOff s t r backoff := by
  obtain ⟨now, hfrom, hto, hentry⟩ := h.entry
  rw [hspared.clockEnd, hspared.key] at hentry
  exact ⟨h.pending, h.queued, h.outside, now, Int.le_trans hspared.now hfrom, hto, hentry⟩

/-- The end of a turn with a panic in it, of a record that was in the delay queue at `s`. -/
theorem AtPanic.fate {refused : Prop} {later : List (Action α)} (h : AtPanic r u actions t v later)
    (hspared : Spared s u r) (hrefused : 0 < s.forsakers r → refused)
    (hstate : s.state? r = some .pending ∨ s.state? r = some .cancelled ∨
      (refused ∧ s.state? r = some .failed))
    (hbelow : s.failures r < s.handoffLimit)
    (hcount : t.failures r = s.failures r + u.occurrences (fails r) actions)
    (hdecided : u.occurrences (fails r) actions + u.occurrences (findsGone r) actions = 1) :
    ((refused ∧ Forsaken t r) ∨ Fate r (s.failures r + 1) s t) ∧
      (0 < u.occurrences (findsGone r) actions →
        t.state? r = some .cancelled ∨ (refused ∧ t.state? r = some .failed)) := by
  obtain ⟨failure, hfaulted⟩ := h.faulted
  obtain ⟨hwaiting, houtside, hqueued⟩ :=
    h.turn.cleaned_up h.reachable h.tame hfaulted rfl rfl h.left
  have hspared : Spared s v r := hspared.trans h.spared
  have hgone : t.isPending r = false → t.places r = 0 := by
    intro hnot
    rw [places_of_none (by rw [hwaiting]; rfl), houtside, hqueued, hnot]
    rfl
  have hfailed : refused → t.state? r = some .failed →
      ((refused ∧ Forsaken t r) ∨ Fate r (s.failures r + 1) s t) ∧
      (0 < u.occurrences (findsGone r) actions →
        t.state? r = some .cancelled ∨ (refused ∧ t.state? r = some .failed)) := fun hwas hfailed =>
    ⟨.inl ⟨hwas, hfailed, hgone (by rw [isPending, hfailed]; rfl)⟩, fun _ => .inr ⟨hwas, hfailed⟩⟩
  by_cases hkept : t.state? r = some .cancelled
  · exact ⟨.inr (.cancelled hkept (hgone (by rw [isPending, hkept]; rfl))), fun _ => .inl hkept⟩
  have hmeanwhile : (refused ∧ v.state? r = some .failed) ∨ v.isPending r = true := by
    rcases hspared.state with hsame | ⟨-, hcancelled | ⟨hforsaken, hfailed⟩⟩
    · rw [← hsame] at hstate
      rcases hstate with hpending | hcancelled | hfailed
      · exact .inr (isPending_iff.mpr (state?_eq_some.mp hpending))
      · exact absurd (exec_final rfl h.turn.exec hcancelled) hkept
      · exact .inl hfailed
    · exact absurd (exec_final rfl h.turn.exec hcancelled) hkept
    · exact .inl ⟨hrefused hforsaken, hfailed⟩
  rcases hmeanwhile with ⟨hwas, hfailed'⟩ | hpending
  · exact hfailed hwas (exec_final rfl h.turn.exec hfailed')
  rcases h.turn.panic_noted h.reachable h.tame hfaulted h.left hpending hkept with
    ⟨hforsaken, hfailed'⟩ | ⟨hfails, w, rest, hw, hreach, htame, hspared', hpending', hturn, hnot⟩
  · exact hfailed (hrefused (hspared.forsakers_pos hforsaken)) hfailed'
  rw [← h.events _ (onlyAfterPanic_fails r)] at hfails
  have hsince : Spared s w r := hspared.trans hspared'
  have hbelow' : w.failures r < w.handoffLimit := by
    rw [handoffLimit, hsince.config, hsince.failures]
    exact hbelow
  refine ⟨?_, fun hgone => by omega⟩
  refine (hturn.failed hreach htame hbelow' hnot hw hpending' hkept).imp
    (.imp_left fun hforsaken => hrefused (hsince.forsakers_pos hforsaken)) ?_
  rw [hsince.config, hsince.failures]
  rintro ⟨hrejected, hputOff⟩
  rcases Nat.lt_or_ge (s.failures r + 1) s.config.retryLimit.toNat with hlt | hle
  · exact .putOff hlt (by omega) ((hputOff hlt).since hsince)
  · exact .refused failure hle (by omega) (hrejected hle)

/-- Up to the panic, and after it, all that is not the record's is left alone. -/
theorem AtPanic.spares {later : List (Action α)} (h : AtPanic r u actions t v later)
    (hquiet : Quiet r u actions) (habsent : r ∉ u.pool.queue) :
    Spares r u t ∧ (t.pool = u.pool ∨ t.pool = u.pool.missed) := by
  obtain ⟨failure, hfaulted⟩ := h.faulted
  obtain ⟨hlater, hqueue, hothers, hpushed⟩ := h.quiet hquiet
  obtain ⟨hspares, hpool⟩ := h.turn.leaves_others h.reachable hfaulted rfl rfl hlater
  rw [PumpPhase.isFaulted, beq_self_eq_true, if_pos rfl] at hpool
  refine ⟨(Spares.of_queue hqueue hothers).trans hspares, ?_⟩
  rw [hpool]
  refine hpushed.imp (fun hsame => ?_) fun hmissed => Pool.withdraw_pushed habsent hmissed
  rw [hsame]
  exact Pool.withdraw_absent habsent

/-- In a run in which no worker picks the record up between a panic and the pump's clean-up, a panic
in its hand-off is the record's affair alone. The pump goes on to the next record, and the pool does
not have this one: it is cancelled and nowhere, or it is rejected because it has failed as often as
it may, or it waits in the delay queue, and once only; if a pump was refused that was to be started
for it, it may have been rejected for that. One more failure is counted, unless the pump finds that
the record has come to its end without one. All that is not the record's is as it was before the
pump took it, if the others have kept apart meanwhile; of the pool, at most the factory has been
asked. -/
theorem handoff_panic_is_isolated (host : Host) (name : String) (config : ServiceConfig)
    (clockEnd now : Instant) {before during : List (Action α)} {choice : Nat} {early : Bool}
    (hrun : (System.initial host name config clockEnd now).exec before = some s)
    (hstep : s.step (.pump choice) = some u) (hpump : u.pump = some (.holding r early))
    (hturn : Turn r u during t) (hpanics : 0 < u.occurrences (panics r) during)
    (hnot : (System.initial host name config clockEnd now).occurrences (takesUpFaulted r)
      (before ++ .pump choice :: during) = 0) :
    (t.pump = some .waiting ∧ ∀ (v : System α) (failure : Failure),
        v.pump = some (.faulted r failure) → Completes r v) ∧
      t.pool.holds r = 0 ∧
      ((0 < (System.initial host name config clockEnd now).occurrences (refusesPumpFor r) before ∧
        Forsaken t r) ∨ Fate r (s.failures r + 1) s t) ∧
      (u.occurrences (findsGone r) during = 0 → t.failures r = s.failures r + 1) ∧
      (0 < u.occurrences (findsGone r) during →
        t.failures r = s.failures r ∧ (t.state? r = some .cancelled ∨
          (0 < (System.initial host name config clockEnd now).occurrences (refusesPumpFor r)
            before ∧ t.state? r = some .failed))) ∧
      (Quiet r u during → Spares r s t ∧ (t.pool = s.pool ∨ t.pool = s.pool.missed)) := by
  rw [occurrences_append hrun, Nat.add_eq_zero_iff] at hnot
  obtain ⟨hbefore, hnot⟩ := hnot
  obtain ⟨hevent, hduring⟩ := occurrences_cons_eq_zero hstep hnot
  have hstart : Retrying (System.initial host name config clockEnd now : System α) r :=
    .initial host name config clockEnd now r
  have hs := hstart.exec hrun hbefore
  have hentered := hstart.exec_entered rfl rfl hrun hbefore
  have hu : Retrying u r := hs.step hstep hevent
  have htakes := step_takes_first hstep hpump
  obtain ⟨k, hentries⟩ := htakes.entry
  have he : (k, r) ∈ s.queue.entries := by
    rw [hentries]
    exact List.mem_cons_self
  have hmanned : s.pump ≠ none := fun hnone => by
    have hstep : s.pumpStep choice = some u := hstep
    rw [pumpStep, hnone] at hstep
    cases hstep
  have htook : Spared s u r := .of_records hstep hmanned htakes.records
  obtain ⟨v, later, hat⟩ := hturn.at_panic hu.reachable hu.tame hpump rfl rfl hduring hpanics
  obtain ⟨failure, hfaulted⟩ := hat.faulted
  obtain ⟨hwaiting, houtside, -⟩ :=
    hat.turn.cleaned_up hat.reachable hat.tame hfaulted rfl rfl hat.left
  have hdecided : u.occurrences (fails r) during + u.occurrences (findsGone r) during = 1 := by
    rw [hat.events _ (onlyAfterPanic_fails r), hat.events _ (onlyAfterPanic_findsGone r),
      hat.turn.decided hfaulted rfl rfl, PumpPhase.isUndecided, PumpPhase.isFaulted,
      beq_self_eq_true]
    rfl
  have hcount : t.failures r = s.failures r + u.occurrences (fails r) during := by
    have hcount := hu.count hturn.exec hduring
    have hnone : t.failing r = false ∧ u.failing r = false := by
      rw [failing, failing, hwaiting, hpump]
      exact ⟨rfl, rfl⟩
    rw [hnone.1, hnone.2, htook.failures] at hcount
    exact hcount
  have hbelow : s.failures r < s.handoffLimit := by
    have hbelow := hu.below hpump rfl fun _ h => by cases h
    rw [handoffLimit, htook.config, htook.failures] at hbelow
    exact hbelow
  obtain ⟨hfate, hgone⟩ :=
    hat.fate htook (exec_forsakers_pos hrun rfl) (hentered k he) hbelow hcount hdecided
  refine ⟨⟨hwaiting, fun _ _ => completes_of_faulted⟩, houtside, hfate, fun hnone => by omega,
    fun hsome => ⟨by omega, hgone hsome⟩, fun hquiet => ?_⟩
  have habsent : r ∉ u.pool.queue := by
    obtain ⟨hqueued, houtside⟩ := hu.tame.only_in_hand hpump rfl rfl
    have hholds : u.pool.queue.count r + u.pool.hands r = 0 := houtside
    exact List.count_eq_zero.mp (by omega)
  obtain ⟨hspares, hpool⟩ := hat.spares hquiet habsent
  rw [htakes.pool] at hpool
  exact ⟨htakes.spares.trans hspares, hpool⟩

/-- The factory panics whenever it is asked for a worker. -/
def brokenFactory : WorkerFactory := { start := fun _ _ => .unwound ⟨.literal "no memory"⟩ }

/-- Two tasks wait in the delay queue, and the first of them is due. -/
def twoTasksWait : List (Action Unit) :=
  [.setFactory brokenFactory, .begin (.schedule (.ofNanos 2)), .call 0 0, .call 0 0, .call 0 0,
    .call 0 0, .begin (.schedule (.ofNanos 4)), .call 1 0, .call 1 0, .call 1 0,
    .passTime (.ofNanos 2)]

/-- The factory panics when the first task is already in the run queue; the pump cleans up. -/
def panicAndCleanup : List (Action Unit) := List.replicate 8 (.pump 0)

theorem panic_after_push_is_isolated :
    ∃ s u t : System Unit, (System.initial .lenient "service" twoHandoffs 1000000000000 0).exec
        twoTasksWait = some s ∧ s.step (.pump 0) = some u ∧
      u.exec panicAndCleanup = some t ∧ t.pump = some .waiting ∧ Fate 0 1 s t ∧
      t.failures 0 = 1 ∧ Spares 0 s t := by
  have hruns : ((System.initial .lenient "service" twoHandoffs 1000000000000 0).exec
      twoTasksWait).any (fun s => (s.step (.pump 0)).any fun u =>
        (u.exec panicAndCleanup).any fun t => decide (
        u.pump = some (.holding 0 false) ∧ u.occurrences (handsFree 0) panicAndCleanup = 0 ∧
        t.pumpHolds 0 = 0 ∧ 0 < u.occurrences (panics 0) panicAndCleanup ∧
        (System.initial .lenient "service" twoHandoffs 1000000000000 0).occurrences
          (takesUpFaulted 0) (twoTasksWait ++ .pump 0 :: panicAndCleanup) = 0 ∧
        s.failures 0 = 0 ∧ u.occurrences (findsGone 0) panicAndCleanup = 0 ∧
        (System.initial .lenient "service" twoHandoffs 1000000000000 0).occurrences
          (refusesPumpFor 0) twoTasksWait = 0)) = true := by
    decide +kernel
  simp only [Option.any_eq_true, decide_eq_true_eq] at hruns
  obtain ⟨s, hs, u, hu, t, ht, hpump, hholds, hends, hpanics, hnot, hfailures, hnone,
    hgranted⟩ := hruns
  have hturn : Turn 0 u panicAndCleanup t := .of_exec ht hholds hends
  obtain ⟨⟨hwaiting, -⟩, -, hfate, hcount, -, hquiet⟩ :=
    handoff_panic_is_isolated .lenient "service" twoHandoffs 1000000000000 0 hs hu hpump hturn
      hpanics hnot
  rw [hfailures] at hfate hcount
  have hfate := hfate.resolve_left fun hrefused => Nat.ne_of_gt hrefused.1 hgranted
  refine ⟨s, u, t, hs, hu, ht, hwaiting, hfate, hcount hnone, (hquiet (.of_pump ?_)).1⟩
  intro a ha
  rw [List.eq_of_mem_replicate ha]
  rfl

end System

end TaskScheduler
