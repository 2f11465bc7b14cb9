import TaskScheduler.Proofs.Drain
import TaskScheduler.Proofs.RunQueue

/-
  The order in which records reach the workers.

  Of two records in the delay queue, the one with the smaller key goes first: into the run queue,
  and into the hand of a worker. The order is carried by three steps. The delay queue gives out its
  first entry (`Reachable.ordered`), so the other record stays in it as long as the first one is
  there or in the hand of the pump (`Ahead`). The pump has one record in hand at a time. And the run
  queue is left at its front and entered at its end (`Before`).

  All this is about runs at which no hand-off to the pool fails (`handoffFails`). One that fails is
  put off, and by that the record gets another key. And the first record may leave the delay queue
  without ever getting into the run queue: it is cancelled, or no pump could be started for it
  (`refusesPumpFor`).
-/
namespace TaskScheduler

/-- The hand-off of the record in hand has failed, and the pump is not yet through with it. -/
def PumpPhase.isAfterFailure : PumpPhase → Bool
  | faulted .. | withdrawn .. | failed .. | rejecting .. | postponing .. | offering _ => true
  | _ => false

/-- The worker is to start a pump for the record. -/
def WorkerPhase.launches (r : Ref) : WorkerPhase → Bool
  | startingPump r' _ => r' == r
  | _ => false

/-- The worker could start no pump for the record. -/
def WorkerPhase.forsakes (r : Ref) : WorkerPhase → Bool
  | retracting r' _ _ | rejecting r' _ => r' == r
  | _ => false

namespace System

variable {α : Type} {s s' t u : System α} {a : Action α} {duty duty' : Duty} {r r' : Ref}

/-- The operating system refuses the thread of a pump that is to be started for the record. -/
def refusesPumpFor (r : Ref) (s : System α) (a : Action α) (_ : System α) : Bool :=
  match a with
  | .callRefused i _ => s.calls[i]?.any fun call => call.duty.launches r
  | .workerRefused i _ => (s.pool.phase? i).any (·.launches r)
  | _ => false

/-- A hand-off fails: it panics, or the pool refuses the record. -/
def handoffFails (s : System α) (_ : Action α) (t : System α) : Bool :=
  s.pump.any (·.canFault) && t.pump.any (·.isAfterFailure)

/-! ## Runs at which no hand-off fails -/

theorem PumpMove.fails (h : PumpMove s t) (hafter : t.pump.any (·.isAfterFailure) = true) :
    s.pump.any (·.isAfterFailure) = true ∨ s.pump.any (·.canFault) = true := by
  cases h with
  | wentOn hpump hgoes =>
    rw [hpump]
    cases hgoes with
    | @decided r early =>
      rcases s.pumpDecide_cases r early with heq | ⟨_, heq⟩ | heq <;> rw [heq] at hafter <;>
        cases hafter
    | checked _ => cases hafter
    | resumed _ => cases hafter
    | failed _ => exact .inl rfl
    | faulted failure hfault _ => exact .inr hfault
  | refused choice hpump _ =>
    rw [hpump]
    exact .inr rfl
  | unwound choice hpump _ =>
    rw [hpump]
    exact .inr rfl
  | withdrew hpump =>
    rw [hpump]
    exact .inl rfl
  | noted hpump _ =>
    rw [hpump]
    exact .inl rfl
  | postponed hpump =>
    rw [hpump]
    exact .inl rfl
  | stopped _ hnext => rcases hnext with rfl | ⟨_, rfl⟩ <;> cases hafter
  | _ => cases hafter

theorem Move.no_failure (h : Move s a t) (hs : s.pump.any (·.isAfterFailure) = false)
    (hnot : handoffFails s a t = false) : t.pump.any (·.isAfterFailure) = false := by
  refine eq_false_of_ne_true fun hafter => ?_
  obtain ⟨phase, hpump, hphase⟩ := (Option.any_eq_true _ _).mp hafter
  have hbefore : s.pump.any (·.isAfterFailure) = true ∨ s.pump.any (·.canFault) = true := by
    rcases h.pump_from hpump (by rintro rfl; cases hphase) with hsame | hpumped
    · rw [hsame]
      exact .inl hphase
    · exact hpumped.fails hafter
  rcases hbefore with hbefore | hbefore
  · rw [hs] at hbefore
    cases hbefore
  · rw [handoffFails, hbefore, hafter] at hnot
    cases hnot

/-! ## Records for which no pump could be started -/

/-- The number of calls and workers that could start no pump for the record. -/
def forsakers (s : System α) (r : Ref) : Nat :=
  s.owing (·.retracts r) + s.pool.tally (·.forsakes r)

theorem condemned_le_forsakers (s : System α) (r : Ref) : s.condemned r ≤ s.forsakers r := by
  refine Nat.le_trans (List.countP_mono_left fun w _ => ?_) (Nat.le_add_left _ _)
  cases w.phase <;> first | exact fun h => h | nofun

theorem CallMove.launches_of_retracts (h : CallMove s duty t duty')
    (hduty : duty'.retracts r = true) : duty.launches r = true := by
  cases h with
  | unlaunched _ _ => exact hduty
  | offered _ | closed => split at hduty <;> cases hduty
  | asked _ hfree => rcases hfree with ⟨rfl, -⟩ | ⟨_, _, _, rfl⟩ <;> cases hduty
  | _ => cases hduty

theorem Move.forsakers_eq_zero (h : Move s a t) (hs : s.forsakers r = 0)
    (hnot : refusesPumpFor r s a t = false) : t.forsakers r = 0 := by
  obtain ⟨howing, htally⟩ := Nat.add_eq_zero_iff.mp hs
  refine Nat.add_eq_zero_iff.mpr ⟨?_, ?_⟩
  · refine h.owing_refused (fun duty hfollows => ?_) ?_ howing
    · cases duty <;> first | rfl | cases hfollows
    · rintro i reason call u duty' rfl hcall hmove
      rw [refusesPumpFor, hcall, Option.any_some] at hnot
      refine eq_false_of_ne_true fun hretracts => ?_
      rw [hmove.launches_of_retracts hretracts] at hnot
      cases hnot
  · refine h.tally_refused (fun phase hfollows => ?_) (fun _ _ _ => rfl) ?_ htally
    · cases phase <;> first | rfl | cases hfollows
    · rintro i reason r' k rfl hphase
      rw [refusesPumpFor, hphase, Option.any_some] at hnot
      exact hnot

theorem step_forsakers_eq_zero (hstep : s.step a = some s') (hs : s.forsakers r = 0)
    (hnot : refusesPumpFor r s a s' = false) : s'.forsakers r = 0 := by
  obtain ⟨t, hmove, hcore⟩ := step_move hstep
  exact of_core (P := fun s => s.forsakers r = 0) (fun _ => rfl) hcore
    (hmove.forsakers_eq_zero hs hnot)

theorem exec_forsakers_eq_zero {actions : List (Action α)} (hrun : s.exec actions = some t)
    (hs : s.forsakers r = 0) (hnot : s.occurrences (refusesPumpFor r) actions = 0) :
    t.forsakers r = 0 :=
  exec_keeps_unless (P := fun s => s.forsakers r = 0)
    (fun hs hstep hnot => step_forsakers_eq_zero hstep hs hnot) hs hrun hnot

/-- Who could start no pump for the record was refused it during the run. -/
theorem exec_forsakers_pos {actions : List (Action α)} (hrun : s.exec actions = some t)
    (hs : s.forsakers r = 0) (hpos : 0 < t.forsakers r) :
    0 < s.occurrences (refusesPumpFor r) actions :=
  Nat.pos_of_ne_zero fun hzero => Nat.ne_of_gt hpos (exec_forsakers_eq_zero hrun hs hzero)

theorem refusesPump_of_for (h : refusesPumpFor r s a t = true) : a.refusesPump = true := by
  cases a <;> first | rfl | cases h

/-- While there is a pump, none is refused. -/
theorem step_forsakers_manned (hstep : s.step a = some s') (hpump : s.pump ≠ none)
    (hs : s.forsakers r = 0) : s'.forsakers r = 0 := by
  refine step_forsakers_eq_zero hstep hs (eq_false_of_ne_true fun hrefused => ?_)
  obtain ⟨t, hmove, -⟩ := step_move hstep
  exact hpump (hmove.unmanned_of_refusal (refusesPump_of_for hrefused))

/-- Reached without a hand-off that has failed, and without a refusal of a pump for the record. So
every record is held once, and the delay queue knows it by its present key. -/
structure Orderly (s : System α) (r : Ref) : Prop where
  reachable : Reachable s
  sole : ∀ r, Sole s r
  filed : Filed (· ≠ r) s
  unforsaken : s.forsakers r = 0
  pump : s.pump.any (·.isAfterFailure) = false

theorem Orderly.initial (host : Host) (name : String) (config : ServiceConfig)
    (clockEnd now : Instant) (r : Ref) :
    Orderly (System.initial host name config clockEnd now : System α) r where
  reachable := .initial host name config clockEnd now
  sole _ := Nat.zero_le 1
  filed := nofun
  unforsaken := rfl
  pump := rfl

theorem Orderly.step (h : Orderly s r) (hstep : s.step a = some s')
    (hnot : handoffFails s a s' = false) (hgranted : refusesPumpFor r s a s' = false) :
    Orderly s' r := by
  obtain ⟨t, hmove, hcore⟩ := step_move hstep
  have hpump : s'.pump = t.pump := congrArg (fun w => w.pump) hcore
  rw [handoffFails, hpump] at hnot
  have hafter := hmove.no_failure h.pump hnot
  have hfiled : Filed (· ≠ r) s' := by
    refine Filed.step h.filed h.reachable h.sole ?_ hstep
    rintro r' hcondemned rfl
    have hle := condemned_le_forsakers s r'
    have hzero := h.unforsaken
    omega
  refine ⟨h.reachable.step a hstep, fun r => ?_, hfiled,
    step_forsakers_eq_zero hstep h.unforsaken hgranted, ?_⟩
  · refine of_core (P := fun s => Sole s r) (fun _ => rfl) hcore ?_
    refine (h.sole r).move (h.reachable.held r)
      (hmove.passes h.reachable.numbered h.reachable.attended r) fun hdoubles => ?_
    obtain ⟨failure, -, hfaulted⟩ := hdoubles.faulted
    rw [hfaulted] at hafter
    cases hafter
  · rw [hpump]
    exact hafter

theorem Orderly.exec {actions : List (Action α)} (h : Orderly s r)
    (hrun : s.exec actions = some t) (hnot : s.occurrences handoffFails actions = 0)
    (hgranted : s.occurrences (refusesPumpFor r) actions = 0) : Orderly t r := by
  refine exec_keeps_unless (P := fun s => Orderly s r) (fun h hstep hneither => ?_) h hrun
    (occurrences_or_eq_zero hnot hgranted)
  obtain ⟨hnot, hgranted⟩ := Bool.or_eq_false_iff.mp hneither
  exact h.step hstep hnot hgranted

/-! ## The order of the delay queue -/

theorem Move.ordered (h : Move s a t) (hs : DelayQueue.Ordered s.queue.entries) :
    DelayQueue.Ordered t.queue.entries := by
  have hoffered : ∀ {pending : Bool} {k : Key} {r : Ref},
      t.queue.entries = DelayQueue.entriesWith pending k r s.queue.entries →
      DelayQueue.Ordered t.queue.entries :=
    fun hentries => hentries ▸ DelayQueue.ordered_entriesWith hs
  rcases h.kinds with ⟨u, _, _, hcall, -, ht⟩ | hpump | hworker | howner | ⟨now, rfl⟩
  · rw [ht]
    rw [ht] at hoffered
    cases hcall with
    | offered hoffer => exact hoffered (DelayQueue.offer_eq_some hoffer).2.2.2.2
    | removed | retracted => exact DelayQueue.ordered_remove hs _
    | _ => exact hs
  · cases hpump with
    | took _ hentries _ =>
      rw [hentries] at hs
      exact (List.pairwise_cons.mp hs).2
    | returned _ => exact hoffered (DelayQueue.putBack_entries ..).1
    | _ => exact hs
  · cases hworker with
    | requeued _ hoffer => exact hoffered (DelayQueue.offer_eq_some hoffer).2.2.2.2
    | retracted => exact DelayQueue.ordered_remove hs _
    | _ => exact hs
  · cases howner <;> exact hs
  · exact hs

/-- The delay queue is in the order of its keys. -/
theorem Reachable.ordered (h : Reachable s) : DelayQueue.Ordered s.queue.entries :=
  h.of_moves (P := fun s => DelayQueue.Ordered s.queue.entries) (fun _ => rfl)
    (fun _ _ _ _ _ => .nil) fun _ hs hmove => hmove.ordered hs

theorem Filed.entry {refused : Ref → Prop} (h : Filed refused s) (hpos : 0 < s.queue.holds r) :
    (s.key r, r) ∈ s.queue.entries := by
  obtain ⟨⟨k, r'⟩, he, hr⟩ := List.countP_pos_iff.mp hpos
  obtain rfl : r' = r := eq_of_beq hr
  obtain ⟨x, hx, rfl, -⟩ := h he
  rw [key_of_record hx]
  exact he

/-! ## Records that stay in the delay queue -/

/-- How often a record is held outside the delay queue, calls that carry it included. -/
def abroad (s : System α) (r : Ref) : Nat := s.pumpHolds r + s.pool.holds r + s.arriving r

/-- The record is the next one that the pump takes. -/
def IsNext (s : System α) (r : Ref) : Prop :=
  s.pump = some .waiting ∧ ∃ k rest, s.queue.entries = (k, r) :: rest

theorem PumpMove.stays_home (h : PumpMove s t) (hhand : s.pumpHolds r = 0)
    (hnext : ¬s.IsNext r) : t.pumpHolds r = 0 ∧ t.pool.holds r ≤ s.pool.holds r := by
  have hkept : ∀ {phase next : PumpPhase} {r' : Ref}, s.pump = some phase →
      phase.record? = some r' → t.pump = some next → next.record? = some r' →
      t.pumpHolds r = 0 := by
    intro phase next r' hpump hrecord hpump' hrecord'
    rw [pumpHolds_of_record hpump hrecord] at hhand
    rw [pumpHolds_of_record hpump' hrecord', hhand]
  have hexecuted : ∀ {r' : Ref} (choice : Nat), s.pump = some (.handing r') →
      (s.pool.execute r' choice).pool.holds r ≤ s.pool.holds r := by
    intro r' choice hpump
    refine Nat.le_of_eq (Pool.execute_holds_other ?_ choice)
    exact fun heq => pump_record_ne hhand hpump (congrArg some heq)
  cases h with
  | @took k r' rest hpump hentries _ =>
    refine ⟨?_, Nat.le_refl _⟩
    rw [pumpHolds_of_record rfl rfl, beq_false_of_ne]
    · rfl
    · rintro rfl
      exact hnext ⟨hpump, k, rest, hentries⟩
  | wentOn hpump hgoes =>
    obtain ⟨r', hrecord, hrecord'⟩ := hgoes.record
    exact ⟨hkept hpump hrecord rfl hrecord', Nat.le_refl _⟩
  | handedOver choice hpump _ => exact ⟨rfl, hexecuted choice hpump⟩
  | refused choice hpump _ => exact ⟨hkept hpump rfl rfl rfl, hexecuted choice hpump⟩
  | unwound choice hpump _ => exact ⟨hkept hpump rfl rfl rfl, hexecuted choice hpump⟩
  | withdrew hpump => exact ⟨hkept hpump rfl rfl rfl, (Pool.withdraw_holds ..).1⟩
  | noted hpump hafter => exact ⟨hkept hpump rfl rfl hafter.record, Nat.le_refl _⟩
  | postponed hpump => exact ⟨hkept hpump rfl rfl rfl, Nat.le_refl _⟩
  | stopped _ hnext =>
    refine ⟨?_, (Pool.shutdown_holds ..).1⟩
    rcases hnext with rfl | ⟨_, rfl⟩ <;> rfl
  | _ => exact ⟨rfl, Nat.le_refl _⟩

theorem CallMove.stays_home (h : CallMove s duty t duty') (hhand : s.pumpHolds r = 0)
    (hduty : duty ≠ .carrying r) : t.pumpHolds r = 0 ∧ t.pool.holds r ≤ s.pool.holds r := by
  have hexecuted : ∀ {r' : Ref} (choice : Nat), duty = .carrying r' →
      (s.pool.execute r' choice).pool.holds r ≤ s.pool.holds r := by
    intro r' choice hcarries
    refine Nat.le_of_eq (Pool.execute_holds_other ?_ choice)
    exact fun heq => hduty (heq ▸ hcarries)
  cases h with
  | executed choice _ => exact ⟨hhand, hexecuted choice rfl⟩
  | refused choice _ => exact ⟨hhand, hexecuted choice rfl⟩
  | unwound choice _ => exact ⟨hhand, hexecuted choice rfl⟩
  | launched _ _ | launchedLast _ _ | replacedLast _ _ => exact ⟨rfl, Nat.le_refl _⟩
  | _ => exact ⟨hhand, Nat.le_refl _⟩

theorem WorkerMove.pumpHolds (h : WorkerMove s a t) (r : Ref) :
    t.pumpHolds r = s.pumpHolds r := by
  cases h with
  | launched _ hnone _ =>
    rw [pumpHolds_of_none rfl, pumpHolds_of_none (s := s) (by rw [hnone]; rfl)]
  | _ => rfl

theorem OwnerMove.pumpHolds (h : OwnerMove s t) (r : Ref) : t.pumpHolds r = s.pumpHolds r := by
  cases h <;> rfl

/-- A record that is in the delay queue, and in no other place, stays there until the pump takes
it, or a call takes it out. -/
theorem Move.stays_home (h : Move s a t) (hmade : r < s.records.length)
    (hhome : s.abroad r = 0) (hnext : ¬s.IsNext r) : t.abroad r = 0 := by
  have hsum : s.pumpHolds r + s.pool.holds r + s.arriving r = 0 := hhome
  have harriving : t.arriving r = 0 := by
    rcases h.arriving_le r with hle | hnew
    · omega
    · exact absurd hnew (Nat.ne_of_lt hmade)
  have hrest : t.pumpHolds r = 0 ∧ t.pool.holds r ≤ s.pool.holds r := by
    rcases h.kinds with ⟨u, duty, _, hcall, howes, ht⟩ | hpump | hworker | howner | ⟨now, rfl⟩
    · rw [ht]
      refine hcall.stays_home (by omega) fun hduty => ?_
      have hle : (duty == .carrying r).toNat ≤ s.arriving r :=
        howes.le (f := (· == .carrying r)) rfl
      rw [hduty, beq_self_eq_true, Bool.toNat_true] at hle
      omega
    · exact hpump.stays_home (by omega) hnext
    · have hsame := hworker.pumpHolds r
      exact ⟨by omega, hworker.pool_holds_le r⟩
    · have hsame := howner.pumpHolds r
      exact ⟨by omega, Nat.le_of_eq (howner.pool_holds r)⟩
    · have hsame : s.pumpHolds r = 0 := by omega
      exact ⟨hsame, Nat.le_refl _⟩
  show t.pumpHolds r + t.pool.holds r + t.arriving r = 0
  omega

/-- Workers get records from the run queue. -/
theorem Move.hands_le (h : Move s a t) (r : Ref) :
    t.pool.hands r ≤ s.pool.holds r := by
  have hcalm : CallsPool s t → t.pool.hands r ≤ s.pool.holds r := fun hcalls =>
    Nat.le_trans (Nat.le_of_eq (hcalls.calm _ rfl rfl rfl)) (Nat.le_add_left ..)
  rcases h.kinds with ⟨u, _, _, hcall, -, ht⟩ | hpump | hworker | howner | ⟨now, rfl⟩
  · rw [ht]
    exact Nat.le_trans (Nat.le_of_eq (hcall.callsPool.calm _ rfl rfl rfl)) (Nat.le_add_left ..)
  · exact hcalm hpump.callsPool
  · exact Nat.le_trans (Nat.le_add_left ..) (hworker.pool_holds_le r)
  · exact hcalm howner.callsPool
  · exact Nat.le_add_left ..

/-! ## The first of two records in the delay queue -/

/-- Both records are in the delay queue, the first of them with the smaller key, or the pump has
taken the first one out. The other record may have left the delay queue by being cancelled. -/
structure Ahead (s : System α) (r r' : Ref) : Prop where
  pending : s.isPending r = true
  held : 0 < s.queue.holds r + s.pumpHolds r
  made : r' < s.records.length
  home : s.abroad r' = 0
  lt : s.key r < s.key r'

/-- In the run queue the one record comes before the other, or no record is picked up any more. -/
inductive Before (p : Pool) (r r' : Ref) : Prop where
  | queued (l l' : List Ref) : p.queue = l ++ r :: l' → r' ∉ l → Before p r r'
  | emptied : p.closing = true → p.queue = [] → Before p r r'

theorem Ahead.not_next (h : Ahead s r r') (ho : Orderly s r) : ¬s.IsNext r' := by
  rintro ⟨hpump, k, rest, hentries⟩
  have hhand : s.pumpHolds r = 0 := pumpHolds_of_none (by rw [hpump]; rfl) r
  have hheld := h.held
  have he : (s.key r, r) ∈ s.queue.entries := Filed.entry ho.filed (by omega)
  have hk : k = s.key r' := by
    have hfirst : (k, r') ∈ s.queue.entries := hentries ▸ List.mem_cons_self
    obtain ⟨x, hx, hk, -⟩ := ho.filed hfirst
    rw [hk, key_of_record hx]
  have hordered := ho.reachable.ordered
  rw [hentries] at hordered he
  exact hordered.first he (hk ▸ h.lt)

/-- The other record is not the first to get into the run queue, or into the hand of a worker. -/
theorem Ahead.home_kept (h : Ahead s r r') (ho : Orderly s r) (hmove : Move s a t) :
    t.abroad r' = 0 := hmove.stays_home h.made h.home (h.not_next ho)

theorem Orderly.key_kept {r₁ : Ref} (h : Orderly s r₁) (hmove : Move s a t)
    (hmade : r < s.records.length)
    (hhands : s.pool.hands r = 0) : t.key r = s.key r := by
  have hnot : postpones r s a t = false := by
    have hphase : s.pump.any (·.isPostponing r) = false := by
      refine eq_false_of_ne_true fun hpost => ne_true_of_eq_false h.pump ?_
      obtain ⟨phase, hpump, hphase⟩ := (Option.any_eq_true _ _).mp hpost
      obtain ⟨backoff, rfl⟩ := PumpPhase.isPostponing_iff.mp hphase
      rw [hpump]
      rfl
    rw [postpones, hphase, Bool.and_false, Bool.false_and]
  have hx : s.record? r = some s.records[r] := List.getElem?_eq_getElem hmade
  obtain ⟨y, hy, -⟩ := hmove.keeps.kept hx
  rw [key_of_record hy, key_of_record hx, hmove.key hnot (endsWell_eq_false hhands) hx hy]

theorem Ahead.outside (h : Ahead s r r') (ho : Orderly s r) : s.pool.holds r = 0 := by
  have hheld := h.held
  have hsole : s.queue.holds r + s.pumpHolds r + s.pool.holds r + s.arriving r ≤ 1 := ho.sole r
  omega

theorem Ahead.move (h : Ahead s r r') (ho : Orderly s r) (hmove : Move s a t)
    (hunforsaken : t.forsakers r = 0) (hpending : t.isPending r = true)
    (hnot : t.pool.queue.count r = 0) : Ahead t r r' where
  pending := hpending
  held := by
    have hheld := h.held
    have hplaces : s.places r = s.queue.holds r + s.pumpHolds r + s.pool.holds r := rfl
    have hhands := hmove.hands_le r
    have houtside := h.outside ho
    have hafter : t.places r =
      t.queue.holds r + t.pumpHolds r + (t.pool.queue.count r + t.pool.hands r) := rfl
    rcases (hmove.passes ho.reachable.numbered ho.reachable.attended r).kept (by omega) with
      (hpos | hcondemned | hwaits) | hretracts
    · omega
    · have hle := condemned_le_forsakers t r
      omega
    · rw [hpending] at hwaits
      cases hwaits
    · have hnone : s.owing (·.retracts r) + s.pool.tally (·.forsakes r) = 0 := ho.unforsaken
      omega
  made := Nat.lt_of_lt_of_le h.made hmove.keeps.length_le
  home := h.home_kept ho hmove
  lt := by
    have houtside : s.pool.queue.count r + s.pool.hands r = 0 := h.outside ho
    have hhome : s.pumpHolds r' + (s.pool.queue.count r' + s.pool.hands r') + s.arriving r' = 0 :=
      h.home
    obtain ⟨x, hx, -⟩ := isPending_iff.mp h.pending
    obtain ⟨hmade, -⟩ := List.getElem?_eq_some_iff.mp hx
    rw [ho.key_kept hmove hmade (by omega), ho.key_kept hmove h.made (by omega)]
    exact h.lt

theorem Ahead.congr (h : Ahead t r r') (hcore : u.core = t.core) : Ahead u r r' :=
  of_core (P := fun u => Ahead u r r')
    (fun _ => propext ⟨fun h => ⟨h.pending, h.held, h.made, h.home, h.lt⟩,
      fun h => ⟨h.pending, h.held, h.made, h.home, h.lt⟩⟩) hcore h

/-- A record that waits, and that is held neither by the pool nor by a pump after a failure, stops
waiting by being cancelled. -/
theorem Ahead.stops (h : Ahead s r r') (ho : Orderly s r) (hstep : s.step a = some s')
    (hnot : s'.isPending r = false) : s'.state? r = some .cancelled := by
  have houtside : s.pool.queue.count r + s.pool.hands r = 0 := h.outside ho
  have hhands : ∀ {i : Nat} {phase : WorkerPhase}, s.pool.phase? i = some phase →
      phase.hand? ≠ some r := fun hphase => worker_hand_ne (by omega) hphase
  cases step_stops hstep (ho.reachable.attended r) h.pending hnot with
  | began hphase _ => exact absurd rfl (hhands hphase)
  | stranded _ hqueued _ =>
    have hcount := List.count_pos_iff.mpr hqueued
    omega
  | rejected hpump _ =>
    have hsound := ho.pump
    rw [hpump] at hsound
    cases hsound
  | givenUp _ hafter => exact hafter
  | refused hphase _ => exact absurd rfl (hhands hphase)
  | unlaunched hphase _ =>
    have hpos : 0 < s.condemned r := Pool.tally_pos hphase (beq_self_eq_true r)
    have hle := condemned_le_forsakers s r
    have hzero := ho.unforsaken
    omega
  | withdrawn _ _ hafter => exact hafter

theorem Ahead.step (h : Ahead s r r') (ho : Orderly s r) (ho' : Orderly s' r)
    (hstep : s.step a = some s') (hnot : entersRunQueue r s a s' = false) :
    s'.state? r = some .cancelled ∨ Ahead s' r r' := by
  cases hpending : s'.isPending r with
  | false => exact .inl (h.stops ho hstep hpending)
  | true =>
    obtain ⟨t, hmove, hcore⟩ := step_move hstep
    have hpool : s'.pool = t.pool := congrArg (fun w => w.pool) hcore
    have houtside : s.pool.queue.count r + s.pool.hands r = 0 := h.outside ho
    rw [entersRunQueue, decide_eq_false_iff_not, hpool] at hnot
    have hrecords : s'.records = t.records := congrArg (fun w => w.records) hcore
    have hpending' : t.isPending r = true := (isPending_congr hrecords).symm.trans hpending
    have hunforsaken : t.forsakers r = 0 :=
      of_core (P := fun s => s.forsakers r = 0) (fun _ => rfl) hcore.symm ho'.unforsaken
    exact .inr ((h.move ho hmove hunforsaken hpending' (by omega)).congr hcore)

/-! ## The run queue -/

theorem Before.of_entered {p : Pool} (h : r ∈ p.queue) (hnot : r' ∉ p.queue) : Before p r r' := by
  obtain ⟨l, l', hqueue⟩ := List.append_of_mem h
  refine .queued l l' hqueue fun hmem => hnot ?_
  rw [hqueue]
  exact List.mem_append_left _ hmem

/-- A pool that is closing stays so. -/
theorem step_closing (hstep : s.step a = some s') (hclosing : s.pool.closing = true) :
    s'.pool.closing = true := by
  refine step_of_move (P := fun s' => s'.pool.closing = true) (fun _ => rfl) (fun hmove => ?_) hstep
  rcases hmove.pool_act with hsame | ⟨op, hact⟩
  · rw [hsame]
    exact hclosing
  · by_cases hop : op = .shutdown
    · subst hop
      rw [← Option.some.inj hact]
      exact s.pool.shutdown_closing
    · rw [Pool.act_closing op hop hact]
      exact hclosing

theorem Before.step (h : Before s.pool r r') (ho : Orderly s r) (hstep : s.step a = some s')
    (hnot : picksUp r s a s' = false) : Before s'.pool r r' := by
  cases step_passage hstep with
  | kept hsame =>
    cases h with
    | queued l l' hqueue hl => exact .queued l l' (hsame.trans hqueue) hl
    | emptied hclosing hnone => exact .emptied (step_closing hstep hclosing) (hsame.trans hnone)
  | @entered r'' _ hopen hentered =>
    cases h with
    | queued l l' hqueue hl =>
      refine .queued l (l' ++ [r'']) ?_ hl
      rw [hentered, hqueue, List.append_assoc, List.cons_append]
    | emptied hclosing _ =>
      rw [hopen] at hclosing
      cases hclosing
  | @left r'' hpicked hleft =>
    cases h with
    | queued l l' hqueue hl =>
      rw [hqueue] at hleft
      cases l with
      | nil =>
        cases hleft
        rw [hpicked] at hnot
        cases hnot
      | cons first rest =>
        refine .queued rest l' (List.cons.inj hleft).2.symm fun hmem => hl ?_
        exact List.mem_cons_of_mem _ hmem
    | emptied _ hnone =>
      rw [hnone] at hleft
      cases hleft
  | withdrew hpump _ _ =>
    have hsound := ho.pump
    rw [hpump] at hsound
    cases hsound
  | stranded _ hclosing hnone => exact .emptied hclosing hnone

/-- Two entries of the delay queue. -/
theorem Ahead.of_entries {k k' : Key} (ho : Orderly s r) (he : (k, r) ∈ s.queue.entries)
    (he' : (k', r') ∈ s.queue.entries) (hlt : k < k') :
    s.state? r = some .cancelled ∨ Ahead s r r' := by
  have hqueued : ∀ {k r}, (k, r) ∈ s.queue.entries → 0 < s.queue.holds r := fun he =>
    List.countP_pos_iff.mpr ⟨_, he, beq_self_eq_true _⟩
  have hpos := hqueued he
  have hpos' := hqueued he'
  have hsole : s.queue.holds r' + s.pumpHolds r' + s.pool.holds r' + s.arriving r' ≤ 1 := ho.sole r'
  obtain ⟨x, hx, rfl, hstate⟩ := ho.filed he
  obtain ⟨x', hx', rfl, -⟩ := ho.filed he'
  rcases hstate with hpending | ⟨hcancelled, -⟩ | ⟨-, hne⟩
  · refine .inr ⟨isPending_iff.mpr ⟨x, hx, hpending⟩, by omega, ?_, ?_, ?_⟩
    · exact (List.getElem?_eq_some_iff.mp hx').1
    · show s.pumpHolds r' + s.pool.holds r' + s.arriving r' = 0
      omega
    · rw [key_of_record hx, key_of_record hx']
      exact hlt
  · exact .inl (state?_eq_some.mpr ⟨x, hx, hcancelled⟩)
  · exact absurd rfl hne

theorem step_final {state : RecordState} (hfinal : state.isFinal = true)
    (hstep : s.step a = some s') (h : s.state? r = some state) : s'.state? r = some state := by
  obtain ⟨x, hx, rfl⟩ := state?_eq_some.mp h
  obtain ⟨y, hy, hkeeps⟩ := step_record hstep hx
  exact state?_eq_some.mpr ⟨y, hy, hkeeps.final hfinal⟩

/-- A record that has come to its end stays as it is. -/
theorem exec_final {actions : List (Action α)} {state : RecordState}
    (hfinal : state.isFinal = true) (hrun : s.exec actions = some t)
    (h : s.state? r = some state) : t.state? r = some state :=
  exec_keeps (P := fun s => s.state? r = some state)
    (fun _ h hstep => step_final hfinal hstep h) h hrun

/-- Until the first record gets into the run queue, the other one stays behind. -/
theorem Orderly.exec_ahead {actions : List (Action α)} (ho : Orderly s r)
    (h : s.state? r = some .cancelled ∨ Ahead s r r') (hrun : s.exec actions = some t)
    (hsound : s.occurrences handoffFails actions = 0)
    (hgranted : s.occurrences (refusesPumpFor r) actions = 0)
    (hnot : s.occurrences (entersRunQueue r) actions = 0) :
    Orderly t r ∧ (t.state? r = some .cancelled ∨ Ahead t r r') := by
  refine exec_keeps_unless
    (P := fun s => Orderly s r ∧ (s.state? r = some .cancelled ∨ Ahead s r r')) ?_ ⟨ho, h⟩ hrun
    (occurrences_or_eq_zero hsound (occurrences_or_eq_zero hgranted hnot))
  rintro s s' a ⟨ho, h⟩ hstep hneither
  obtain ⟨hsound, hneither⟩ := Bool.or_eq_false_iff.mp hneither
  obtain ⟨hgranted, hnot⟩ := Bool.or_eq_false_iff.mp hneither
  have ho' := ho.step hstep hsound hgranted
  refine ⟨ho', ?_⟩
  rcases h with hcancelled | hahead
  · exact .inl (step_final rfl hstep hcancelled)
  · exact hahead.step ho ho' hstep hnot

end System

end TaskScheduler
