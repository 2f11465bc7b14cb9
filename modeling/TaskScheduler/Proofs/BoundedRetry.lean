import TaskScheduler.Proofs.Backoff
import TaskScheduler.Proofs.Turn

/-
  A hand-off that has failed is repeated after a wait, and the last one rejects the record.

  A refusal by the pool and a panic in the hand-off both bring the pump to `failed`, where it counts
  the failure with the record. `Retrying`: what holds of a record over a run in which no worker
  picks it up after a panic and before the pump has cleaned up; `Retrying.count` says that the
  number kept with the record is the number of its failed hand-offs. `Turn.rejected`,
  `Turn.postponed`: how the turn of the pump ends that has begun with a failure, whatever the others
  do meanwhile.
-/
namespace TaskScheduler

/-- The pump is to note a failed hand-off of the record. -/
def PumpPhase.isFailed (r : Ref) : PumpPhase → Bool
  | failed r' _ => r' == r
  | _ => false

theorem PumpPhase.isFailed_iff {r : Ref} {phase : PumpPhase} :
    phase.isFailed r = true ↔ ∃ reason, phase = .failed r reason := by
  cases phase <;> simp [isFailed]

namespace System

variable {α : Type} {s s' t u : System α} {a : Action α} {r : Ref} {x : Record α}
  {actions : List (Action α)} {reason : String} {choice : Nat}

/-- What a record is rejected with after some failed hand-offs, the last of them for a reason. -/
def refusal (attempts : Nat) (reason : String) : String :=
  "backend pool refused task after " ++ Text.Numeral.ofNat attempts ++ " attempts: " ++ reason

/-- The pump is to note a failed hand-off of the record. -/
def failing (s : System α) (r : Ref) : Bool := s.pump.any (·.isFailed r)

/-- A hand-off of the record fails. -/
def fails (r : Ref) (s : System α) (_ : Action α) (t : System α) : Bool :=
  !s.failing r && t.failing r

theorem failing_iff : s.failing r = true ↔ ∃ reason, s.pump = some (.failed r reason) := by
  rw [failing, Option.any_eq_true]
  constructor
  · rintro ⟨phase, hpump, hphase⟩
    obtain ⟨reason, rfl⟩ := PumpPhase.isFailed_iff.mp hphase
    exact ⟨reason, hpump⟩
  · rintro ⟨reason, hpump⟩
    exact ⟨_, hpump, beq_self_eq_true r⟩

/-! ## The sections of the pump after a failed hand-off -/

/-- What a section of the pump leaves alone. -/
structure Aside (s t : System α) : Prop where
  now : t.now = s.now
  clockEnd : t.clockEnd = s.clockEnd
  config : t.config = s.config
  pool : t.pool = s.pool
  calls : t.calls = s.calls

/-- The pump counts the failure, and decides by the number whether to try again. -/
theorem step_failed (hstep : s.step (.pump choice) = some s')
    (hpump : s.pump = some (.failed r reason)) (hx : s.record? r = some x) :
    Aside s s' ∧ s'.queue = s.queue ∧ s'.records = s.records.modify r (·.noteHandoffFailure) ∧
      s'.pump = some (if s.config.retryLimit ≤ x.noteHandoffFailure.failedHandoffs then
        .rejecting r (refusal x.noteHandoffFailure.failedHandoffs.toNat reason)
      else .postponing r (s.config.backoffAfter x.noteHandoffFailure.failedHandoffs.toNat)) := by
  have hstep : s.pumpStep choice = some s' := hstep
  rw [pumpStep, hpump] at hstep
  cases hstep
  have hnoted : ({ s with metrics := s.metrics.countHandoffFailure }.noteHandoffFailure r).2 =
      x.noteHandoffFailure.failedHandoffs := by
    show ((((s.records.modify r (·.noteHandoffFailure))[r]?).map (·.failedHandoffs)).getD 0) = _
    rw [record?_modify, hx]
    simp
  unfold pumpFail
  simp only [hnoted]
  split
  next hlimit => exact ⟨⟨rfl, rfl, rfl, rfl, rfl⟩, rfl, rfl, rfl⟩
  next hlimit => exact ⟨⟨rfl, rfl, rfl, rfl, rfl⟩, rfl, rfl, rfl⟩

theorem step_rejects {text : String} (hstep : s.step (.pump choice) = some s')
    (hpump : s.pump = some (.rejecting r text)) (hx : s.record? r = some x) :
    Aside s s' ∧ s'.queue = s.queue ∧ s'.record? r = some (x.reject text).1 ∧
      s'.pump = some .waiting := by
  have hstep : s.pumpStep choice = some s' := hstep
  rw [pumpStep, hpump] at hstep
  cases hstep
  have hcore := reject_core s r text
  refine ⟨⟨congrArg (fun w => w.now) hcore, congrArg (fun w => w.clockEnd) hcore,
    congrArg (fun w => w.config) hcore, congrArg (fun w => w.pool) hcore,
    congrArg (fun w => w.calls) hcore⟩, congrArg (fun w => w.queue) hcore, ?_, rfl⟩
  have hrecords : (s.reject r text).records = s.records.modify r fun x => (x.reject text).1 :=
    congrArg (fun w => w.records) hcore
  show (s.reject r text).record? r = _
  rw [record?_of_modify hrecords, if_pos rfl, hx, Option.map_some]

theorem step_puts_off {backoff : Duration} (hstep : s.step (.pump choice) = some s')
    (hpump : s.pump = some (.postponing r backoff)) (hx : s.record? r = some x) :
    Aside s s' ∧ s'.queue = s.queue ∧
      s'.record? r = some (x.postpone (deadline s.clockEnd s.now backoff)) ∧
      s'.pump = some (.offering r) := by
  have hstep : s.pumpStep choice = some s' := hstep
  rw [pumpStep, hpump] at hstep
  cases hstep
  refine ⟨⟨rfl, rfl, rfl, rfl, rfl⟩, rfl, ?_, rfl⟩
  show (s.postpone r (deadline s.clockEnd s.now backoff)).record? r = _
  rw [record?_of_modify (s := s) (r := r) rfl, if_pos rfl, hx, Option.map_some]

theorem step_returns (hstep : s.step (.pump choice) = some s')
    (hpump : s.pump = some (.offering r)) :
    Aside s s' ∧ s'.queue = s.queue.putBack (s.isPending r) (s.key r) r ∧
      s'.records = s.records ∧ s'.pump = some .waiting := by
  have hstep : s.pumpStep choice = some s' := hstep
  rw [pumpStep, hpump] at hstep
  cases hstep
  exact ⟨⟨rfl, rfl, rfl, rfl, rfl⟩, rfl, rfl, rfl⟩

/-! ## What a failed hand-off is -/

/-- A hand-off of the record has failed: the pool has refused the record, or the pump has cleaned up
after a panic and found it still pending. -/
inductive Failed (s : System α) (r : Ref) : Action α → String → Prop where
  | refused {choice : Nat} {error : PoolError} : s.pump = some (.handing r) →
      (s.pool.execute r choice).answer = .error error → Failed s r (.pump choice) error.text
  | panicked {choice : Nat} {failure : Failure} : s.pump = some (.withdrawn r failure) →
      s.isPending r = true → Failed s r (.pump choice) ("hand-off " ++ failure.text)

theorem Failed.fails (h : Failed s r a reason) (hstep : s.step a = some s') :
    fails r s a s' = true ∧ s'.pump = some (.failed r reason) := by
  have hfails : s.failing r = false → s'.pump = some (.failed r reason) →
      System.fails r s a s' = true ∧ s'.pump = some (.failed r reason) := by
    intro hnot hpump'
    rw [System.fails, hnot, failing_iff.mpr ⟨reason, hpump'⟩]
    exact ⟨rfl, hpump'⟩
  cases h with
  | @refused choice error hpump hanswer =>
    refine hfails (by rw [failing, hpump]; rfl) ?_
    have hstep : s.pumpStep choice = some s' := hstep
    rw [pumpStep, hpump] at hstep
    simp only [execute, hanswer] at hstep
    cases hstep
    rfl
  | @panicked choice failure hpump hpending =>
    refine hfails (by rw [failing, hpump]; rfl) ?_
    have hstep : s.pumpStep choice = some s' := hstep
    rw [pumpStep, hpump] at hstep
    simp only [hpending, if_true] at hstep
    cases hstep
    rfl

theorem Tame.limited_step (h : Tame s r) (hs : Reachable s) (hstep : s.step a = some s')
    (hlimited : Limited s r (s.places r + s.arriving r)) :
    Limited s' r (s'.places r + s'.arriving r) := by
  rcases h with hsole | hdangling
  · exact hsole.limited_step hs hstep hlimited
  · obtain ⟨failure, hpump⟩ := hdangling.faulted
    have hplaces := places_of_record hpump rfl r
    have hhand := pumpHolds_of_record hpump rfl r
    rw [beq_self_eq_true, Bool.toNat_true] at hplaces hhand
    refine hlimited.step hs hstep (fun _ _ => by omega) (fun hzero => by omega) ?_
    rintro ⟨reason, hrejecting⟩
    cases hpump.symm.trans hrejecting

/-- A record whose hand-offs are tried, fail and are tried again, in a run in which no worker picks
it up between a panic and the pump's clean-up. -/
structure Retrying (s : System α) (r : Ref) : Prop where
  reachable : Reachable s
  tame : Tame s r
  limited : Limited s r (s.places r + s.arriving r)
  /-- The pump rejects a record only when it has failed as often as it may. -/
  rejecting : ∀ text, s.pump = some (.rejecting r text) →
    s.config.retryLimit.toNat ≤ s.failures r ∧ 0 < s.failures r

theorem Retrying.initial (host : Host) (name : String) (config : ServiceConfig)
    (clockEnd now : Instant) (r : Ref) :
    Retrying (System.initial host name config clockEnd now : System α) r where
  reachable := .initial host name config clockEnd now
  tame := .inl (Nat.zero_le 1)
  limited := .inl (Nat.lt_of_lt_of_le Nat.one_pos (Nat.le_max_left _ _))
  rejecting := nofun

/-- Below the limit one more failure can be counted. -/
theorem counted_of_lt (hx : s.record? r = some x) (hlt : s.failures r < s.handoffLimit) :
    x.noteHandoffFailure.failedHandoffs.toNat = s.failures r + 1 := by
  rw [failures_of_record hx] at hlt ⊢
  have hbound := Nat.lt_of_le_of_lt hlt s.handoffLimit_lt
  exact (UInt32.toNat_add x.failedHandoffs 1).trans (Nat.mod_eq_of_lt hbound)

/-- A record that the pump has in hand, and is not about to reject, has not failed as often as it
may. -/
theorem Retrying.below {phase : PumpPhase} (h : Retrying s r) (hpump : s.pump = some phase)
    (hrecord : phase.record? = some r) (hphase : ∀ text, phase ≠ .rejecting r text) :
    s.failures r < s.handoffLimit := by
  have hplaces := places_of_record hpump hrecord r
  rw [beq_self_eq_true, Bool.toNat_true] at hplaces
  refine h.limited.resolve_right ?_
  rintro ⟨-, hnowhere | ⟨text, hrejecting⟩⟩
  · omega
  · exact hphase text (Option.some.inj (hpump.symm.trans hrejecting))

theorem PumpMove.to_rejecting {text : String} (h : PumpMove s t)
    (ht : t.pump = some (.rejecting r text)) :
    s.pump = some (.rejecting r text) ∨ ∃ reason, s.pump = some (.failed r reason) := by
  cases h with
  | @noted r' reason next hpump hafter =>
    have hrecord := hafter.record
    cases Option.some.inj ht
    cases hrecord
    exact .inr ⟨reason, hpump⟩
  | @wentOn phase next hpump hgoes =>
    cases Option.some.inj ht
    generalize hnext : PumpPhase.rejecting r text = next at hgoes
    cases hgoes with
    | @decided r' early =>
      rcases s.pumpDecide_cases r' early with heq | ⟨_, heq⟩ | heq <;>
        cases hnext.trans heq
    | _ => cases hnext
  | stopped _ hnext => rcases hnext with rfl | ⟨_, rfl⟩ <;> cases ht
  | _ => cases ht

theorem Retrying.step (h : Retrying s r) (hstep : s.step a = some s')
    (hnot : takesUpFaulted r s a s' = false) : Retrying s' r where
  reachable := h.reachable.step a hstep
  tame := h.tame.step h.reachable hstep hnot
  limited := h.tame.limited_step h.reachable hstep h.limited
  rejecting := by
    intro text hpump'
    have hfrom : s.pump = some (.rejecting r text) ∨
        ∃ reason, s.pump = some (.failed r reason) := by
      obtain ⟨t, hmove, hcore⟩ := step_move hstep
      have hpump : t.pump = some (.rejecting r text) :=
        (congrArg (fun w => w.pump) hcore).symm.trans hpump'
      rcases hmove.pump_from hpump nofun with hsame | hpumped
      · exact .inl hsame
      · exact hpumped.to_rejecting hpump
    rcases hfrom with hpump | ⟨reason, hpump⟩
    · cases step_pump hstep hpump nofun with
      | other ha _ =>
        have hspared := step_spared hstep h.reachable ha h.tame hpump rfl
        rw [hspared.config, hspared.failures]
        exact h.rejecting text hpump
      | own _ =>
        obtain ⟨x, hx⟩ := h.reachable.known_in_hand hpump rfl
        cases (step_rejects hstep hpump hx).2.2.2.symm.trans hpump'
      | panic hfault _ => cases hfault
    · cases step_pump hstep hpump nofun with
      | other _ hkept => cases hkept.symm.trans hpump'
      | own _ =>
        obtain ⟨x, hx⟩ := h.reachable.known_in_hand hpump rfl
        obtain ⟨haside, -, hrecords, hnext⟩ := step_failed hstep hpump hx
        have hy := record?_of_modify hrecords r
        rw [if_pos rfl, hx, Option.map_some] at hy
        rw [haside.config, failures_of_record hy, counted_of_lt hx (h.below hpump rfl nofun)]
        rw [hnext] at hpump'
        split at hpump'
        next hlimit =>
          have hle : s.config.retryLimit.toNat ≤ x.noteHandoffFailure.failedHandoffs.toNat := hlimit
          rw [counted_of_lt hx (h.below hpump rfl nofun)] at hle
          exact ⟨hle, Nat.succ_pos _⟩
        next => cases hpump'
      | panic hfault _ => cases hfault

/-- The number that is kept with a record follows its failed hand-offs. -/
theorem Retrying.step_count (h : Retrying s r) (hstep : s.step a = some s') :
    s'.failures r + (s'.failing r).toNat =
      s.failures r + (s.failing r).toNat + (fails r s a s').toNat := by
  cases hfailing : s.failing r with
  | false =>
    have hsame : s'.failures r = s.failures r := by
      rcases h.reachable.step_failures hstep with ⟨r', hnotes⟩ | hsame
      · refine hnotes.others r ?_
        rintro rfl
        rw [failing_iff.mpr hnotes.failed] at hfailing
        cases hfailing
      · exact hsame r
    rw [fails, hfailing, hsame]
    rfl
  | true =>
    obtain ⟨reason, hpump⟩ := failing_iff.mp hfailing
    rw [fails, hfailing]
    show _ = s.failures r + 1 + 0
    cases step_pump hstep hpump nofun with
    | other ha hkept =>
      rw [failing_iff.mpr ⟨reason, hkept⟩,
        (step_spared hstep h.reachable ha h.tame hpump rfl).failures]
      rfl
    | own _ =>
      obtain ⟨x, hx⟩ := h.reachable.known_in_hand hpump rfl
      obtain ⟨-, -, hrecords, hnext⟩ := step_failed hstep hpump hx
      have hy := record?_of_modify hrecords r
      rw [if_pos rfl, hx, Option.map_some] at hy
      have hnot : s'.failing r = false := by
        rw [failing, hnext]
        split <;> rfl
      rw [hnot, failures_of_record hy, counted_of_lt hx (h.below hpump rfl nofun)]
      rfl
    | panic hfault _ => cases hfault

theorem Retrying.exec (h : Retrying s r) (hrun : s.exec actions = some t)
    (hnot : s.occurrences (takesUpFaulted r) actions = 0) : Retrying t r :=
  exec_keeps_unless (P := fun s => Retrying s r) (fun h hstep hnot => h.step hstep hnot) h hrun hnot

theorem Retrying.count (h : Retrying s r) (hrun : s.exec actions = some t)
    (hnot : s.occurrences (takesUpFaulted r) actions = 0) :
    t.failures r + (t.failing r).toNat =
      s.failures r + (s.failing r).toNat + s.occurrences (fails r) actions := by
  induction actions generalizing s with
  | nil =>
    cases hrun
    rfl
  | cons a rest ih =>
    obtain ⟨s', hstep, hrest⟩ := exec_cons hrun
    obtain ⟨hevent, hnot'⟩ := occurrences_cons_eq_zero hstep hnot
    rw [occurrences_cons hstep, ih (h.step hstep hevent) hrest hnot', h.step_count hstep,
      Nat.add_assoc]

/-- The number never exceeds the limit, not even with the failure that is to be noted. -/
theorem Retrying.bounded (h : Retrying s r) :
    s.failures r + (s.failing r).toNat ≤ s.handoffLimit := by
  cases hfailing : s.failing r with
  | false => exact h.limited.elim Nat.le_of_lt And.left
  | true =>
    obtain ⟨reason, hpump⟩ := failing_iff.mp hfailing
    exact h.below hpump rfl nofun

/-! ## How a turn ends -/

/-- A record that waits, and is not cancelled by the end, still waits in between, unless a worker
rejects it that could start no pump for it. -/
theorem Spared.pending (h : Spared s u r) (hpending : s.isPending r = true)
    (hrun : u.exec actions = some t) (hkept : t.state? r ≠ some .cancelled) :
    (0 < s.forsakers r ∧ t.state? r = some .failed) ∨
      ∃ x, u.record? r = some x ∧ x.state = .pending := by
  rcases h.state with hsame | ⟨-, hcancelled | ⟨hforsaken, hfailed⟩⟩
  · refine .inr (isPending_iff.mp ?_)
    rw [isPending, hsame]
    exact hpending
  · exact absurd (exec_final rfl hrun hcancelled) hkept
  · exact .inl ⟨hforsaken, exec_final rfl hrun hfailed⟩

/-- The record has failed, and is nowhere. -/
structure Forsaken (t : System α) (r : Ref) : Prop where
  state : t.state? r = some .failed
  gone : t.places r = 0

theorem Turn.forsaken {phase : PumpPhase} (h : Turn r s actions t) (hs : Reachable s)
    (htame : Tame s r) (hpump : s.pump = some phase) (hrecord : phase.record? = some r)
    (hafter : phase.isAfterFailure = true) (hnot : s.occurrences (takesUpFaulted r) actions = 0)
    (hfailed : 0 < s.forsakers r ∧ t.state? r = some .failed) :
    0 < s.forsakers r ∧ Forsaken t r := by
  refine ⟨hfailed.1, hfailed.2, ?_⟩
  obtain ⟨hwaiting, houtside, hqueued⟩ := h.cleaned_up hs htame hpump hrecord hafter hnot
  rw [places_of_none (by rw [hwaiting]; rfl), houtside, hqueued, isPending, hfailed.2]
  rfl

/-- The record has been rejected, for a reason given in words, and is in no queue. -/
structure Refused (t : System α) (r : Ref) (text : String) : Prop where
  outcome : ∃ x, t.record? r = some x ∧ x.state = .failed ∧
    x.outcome = some (.error (.rejected text))
  gone : t.places r = 0

/-- The record waits, in the delay queue only, and its trigger is a while after an instant of the
run from `s` to `t`. -/
structure PutOff (s t : System α) (r : Ref) (backoff : Duration) : Prop where
  pending : t.isPending r = true
  queued : t.queue.holds r = 1
  outside : t.pool.holds r = 0
  entry : ∃ now, s.now ≤ now ∧ now ≤ t.now ∧
    (⟨deadline s.clockEnd now backoff, (s.key r).id⟩, r) ∈ t.queue.entries

theorem Turn.rejected {text : String} (h : Turn r s actions t) (hs : Reachable s)
    (htame : Tame s r) (hnot : s.occurrences (takesUpFaulted r) actions = 0)
    (hpump : s.pump = some (.rejecting r text)) (hpending : s.isPending r = true)
    (hkept : t.state? r ≠ some .cancelled) :
    (0 < s.forsakers r ∧ Forsaken t r) ∨ Refused t r text := by
  obtain ⟨u, v, choice, rest, hu, -, htame', hspared, hstep, hturn, -⟩ :=
    h.next_section hs htame hpump rfl rfl hnot
  refine (hspared.pending hpending (exec_of_step hstep hturn.exec) hkept).imp
    (h.forsaken hs htame hpump rfl rfl hnot) ?_
  rintro ⟨x, hx, hstate⟩
  obtain ⟨haside, hqueue, hy, hnext⟩ := step_rejects hstep hu hx
  have hreleased : v.pump.bind (·.record?) = none := by
    rw [hnext]
    rfl
  obtain rfl : t = v := hturn.ended_of_released (pumpHolds_of_none hreleased r)
  obtain ⟨hqueued, hpool⟩ := htame'.only_in_hand hu rfl rfl
  refine ⟨⟨_, hy, ?_⟩, ?_⟩
  · rw [Record.reject, hstate]
    exact ⟨rfl, rfl⟩
  · rw [places_of_none hreleased, hqueue, haside.pool]
    omega

theorem Turn.postponed {backoff : Duration} (h : Turn r s actions t) (hs : Reachable s)
    (htame : Tame s r) (hnot : s.occurrences (takesUpFaulted r) actions = 0)
    (hpump : s.pump = some (.postponing r backoff)) (hpending : s.isPending r = true)
    (hkept : t.state? r ≠ some .cancelled) :
    (0 < s.forsakers r ∧ Forsaken t r) ∨ PutOff s t r backoff := by
  obtain ⟨u, v, choice, rest, hu, hreach, htameu, hspared, hstep, hturn, hfewer⟩ :=
    h.next_section hs htame hpump rfl rfl hnot
  have hforsaken := h.forsaken hs htame hpump rfl rfl hnot
  rcases hspared.pending hpending (exec_of_step hstep hturn.exec) hkept with
    hfailed | ⟨x, hx, hstate⟩
  · exact .inl (hforsaken hfailed)
  obtain ⟨haside, -, hy, hnext⟩ := step_puts_off hstep hu hx
  have hy : v.record? r = some { x with trigger := deadline u.clockEnd u.now backoff } := by
    rw [hy, Record.postpone, hstate]
  obtain ⟨hevent, hnot'⟩ :=
    occurrences_cons_eq_zero hstep (Nat.le_zero.mp (hnot ▸ hfewer (takesUpFaulted r)))
  -- The trigger has been moved; what is left of the turn is to put the record back.
  obtain ⟨u', v', choice', rest', hu', hreach', htame', hspared', hstep', hturn', -⟩ :=
    hturn.next_section (hreach.step _ hstep) (htameu.step hreach hstep hevent) hnext rfl rfl hnot'
  have hpending' : v.isPending r = true := isPending_iff.mpr ⟨_, hy, hstate⟩
  rcases hspared'.pending hpending' (exec_of_step hstep' hturn'.exec) hkept with
    hfailed | ⟨x', hx', hstate'⟩
  · exact .inl (hforsaken ⟨hspared.forsakers_before hu hstep hfailed.1, hfailed.2⟩)
  refine .inr ?_
  obtain ⟨haside', hqueue, hrecords, hnext'⟩ := step_returns hstep' hu'
  have hreleased : v'.pump.bind (·.record?) = none := by
    rw [hnext']
    rfl
  obtain rfl : t = v' := hturn'.ended_of_released (pumpHolds_of_none hreleased r)
  obtain ⟨hqueued, hpool⟩ := htame'.only_in_hand hu' rfl rfl
  have hwaits : u'.isPending r = true := isPending_iff.mpr ⟨x', hx', hstate'⟩
  have hentries := (u'.queue.putBack_entries (u'.isPending r) (u'.key r) r).1
  rw [← hqueue] at hentries
  have hkey : u'.key r = ⟨deadline s.clockEnd u.now backoff, (s.key r).id⟩ := by
    rw [hspared'.key, key_of_record hy, ← hspared.key, ← hspared.clockEnd, key_of_record hx]
    rfl
  obtain ⟨-, hle, hge⟩ := holds_offered hreach'.numbered hentries r
  have hge := hge hwaits
  rw [beq_self_eq_true, Bool.toNat_true] at hle hge
  refine ⟨?_, by omega, by rw [haside'.pool]; exact hpool, u.now, hspared.now, ?_, ?_⟩
  · rw [isPending_congr hrecords]
    exact hwaits
  · rw [haside'.now, ← haside.now]
    exact hspared'.now
  · rw [hentries, hwaits, DelayQueue.entriesWith, if_pos rfl, hkey]
    exact DelayQueue.mem_insertEntry_self _ _ _

/-- What becomes of a record that waits when one more hand-off of it has failed. -/
theorem Turn.failed (h : Turn r s actions t) (hs : Reachable s) (htame : Tame s r)
    (hbelow : s.failures r < s.handoffLimit)
    (hnot : s.occurrences (takesUpFaulted r) actions = 0)
    (hpump : s.pump = some (.failed r reason)) (hpending : s.isPending r = true)
    (hkept : t.state? r ≠ some .cancelled) :
    (0 < s.forsakers r ∧ Forsaken t r) ∨
    (s.config.retryLimit.toNat ≤ s.failures r + 1 →
      Refused t r (refusal (s.failures r + 1) reason)) ∧
    (s.failures r + 1 < s.config.retryLimit.toNat →
      PutOff s t r (s.config.backoffAfter (s.failures r + 1))) := by
  obtain ⟨u, v, choice, rest, hu, hreach, htameu, hspared, hstep, hturn, hfewer⟩ :=
    h.next_section hs htame hpump rfl rfl hnot
  rcases hspared.pending hpending (exec_of_step hstep hturn.exec) hkept with
    hfailed | ⟨x, hx, hstate⟩
  · exact .inl (h.forsaken hs htame hpump rfl rfl hnot hfailed)
  obtain ⟨haside, hqueue, hrecords, hnext⟩ := step_failed hstep hu hx
  obtain ⟨hevent, hnot'⟩ :=
    occurrences_cons_eq_zero hstep (Nat.le_zero.mp (hnot ▸ hfewer (takesUpFaulted r)))
  have hreach' := hreach.step _ hstep
  have htame' := htameu.step hreach hstep hevent
  have hy := record?_of_modify hrecords r
  rw [if_pos rfl, hx, Option.map_some] at hy
  have hwaits : v.isPending r = true := isPending_iff.mpr ⟨_, hy, hstate⟩
  have hbefore : 0 < v.forsakers r ∧ Forsaken t r → 0 < s.forsakers r ∧ Forsaken t r :=
    .imp_left (hspared.forsakers_before hu hstep)
  have hcount : x.noteHandoffFailure.failedHandoffs.toNat = s.failures r + 1 := by
    rw [← hspared.failures] at hbelow ⊢
    refine counted_of_lt hx ?_
    rw [handoffLimit, hspared.config]
    exact hbelow
  rw [hspared.config, hcount] at hnext
  have hlimit : s.config.retryLimit ≤ x.noteHandoffFailure.failedHandoffs ↔
      s.config.retryLimit.toNat ≤ s.failures r + 1 := hcount ▸ UInt32.le_iff_toNat_le
  rcases Nat.lt_or_ge (s.failures r + 1) s.config.retryLimit.toNat with hlt | hle
  · rw [if_neg (fun hle => Nat.not_le.mpr hlt (hlimit.mp hle))] at hnext
    refine (hturn.postponed hreach' htame' hnot' hnext hwaits hkept).imp hbefore ?_
    rintro ⟨hpending', hqueued, houtside, now, hfrom, hto, hentry⟩
    refine ⟨fun hle => absurd hlt (Nat.not_lt.mpr hle), fun _ => ?_⟩
    refine ⟨hpending', hqueued, houtside, now, ?_, hto, ?_⟩
    · rw [haside.now] at hfrom
      exact Int.le_trans hspared.now hfrom
    · have hkey : v.key r = s.key r := by
        rw [← hspared.key, key_of_record hx, key_of_record hy]
        rfl
      rw [haside.clockEnd, hspared.clockEnd, hkey] at hentry
      exact hentry
  · rw [if_pos (hlimit.mpr hle)] at hnext
    refine (hturn.rejected hreach' htame' hnot' hnext hwaits hkept).imp hbefore fun hrefused => ?_
    exact ⟨fun _ => hrefused, fun hlt => absurd hlt (Nat.not_lt.mpr hle)⟩

/-! ## Whole runs -/

/-- A service that tries two hand-offs of a record. -/
def twoHandoffs : ServiceConfig :=
  let config := ServiceConfig.ofProcessors 1
  { config with dispatcher := { config.dispatcher with retryLimit := 2 } }

end System

end TaskScheduler
