import Mathlib.Algebra.Order.BigOperators.Group.List
import Mathlib.Algebra.Order.Ring.Nat
import TaskScheduler.Proofs.OnePump
import TaskScheduler.Proofs.Retries

/-
  What a step does to the pump while the delay queue is closed.

  Retries put entries back into the closed queue, so the queue does not shrink with every record
  that is taken out. What shrinks is `potential`: the turns that the records in the queue and in the
  pump's hand still have, where a record has one for each hand-off that may be tried, and at least
  one. `step_drains`: a step notes a failed hand-off, or does one of the things in `Drains`.
  `step_potential`: taking a record out uses up potential. Only a number of failed hand-offs that
  runs over gives potential back (`step_forgotten`). `step_sections`: between two records that it
  takes out the pump has at most ten sections. `step_enters`, `step_answers`, `pump_goes_on`: what
  gets into the queue, when the pump is told that the queue is drained, and that it is not kept
  waiting.
-/
namespace TaskScheduler

/-- The sections that the pump has at most before it lets go of the record in hand. -/
def PumpPhase.rank : PumpPhase → Nat
  | holding .. => 9
  | checked .. => 8
  | pausing .. => 7
  | handing _ => 6
  | faulted .. => 5
  | withdrawn .. => 4
  | failed .. => 3
  | postponing .. => 2
  | cancelling _ | rejecting .. | offering _ => 1
  | waiting | stopping | awaiting | marking | collapsed _ => 0

/-- How often the record in hand is taken out of the delay queue again, at most. Until its hand-off
is noted as failed, it is on a turn that has been used up. -/
def PumpPhase.returns (turns : Ref → Nat) : PumpPhase → Nat
  | holding r _ | checked r _ | pausing r _ | handing r | faulted r _ | withdrawn r _
  | failed r _ => turns r - 1
  | postponing r _ | offering r => turns r
  | _ => 0

namespace System

variable {α : Type} {s s' t u : System α} {a : Action α} {r : Ref}

/-! ## Turns -/

/-- How often the record is taken out of the delay queue at most before a hand-off of it succeeds or
it is rejected. -/
def turns (s : System α) (r : Ref) : Nat := max 1 (s.config.retryLimit.toNat - s.failures r)

/-- The record that the pump has in hand. -/
def inHand (s : System α) : List Ref := (s.pump.bind (·.record?)).toList

/-- The turns of the records in the delay queue and in the pump's hand. -/
def drainBudget (s : System α) : Nat := ((s.queue.refs ++ s.inHand).map s.turns).sum

/-- The turns of the records in the delay queue. -/
def queuedTurns (turns : Ref → Nat) (s : System α) : Nat := (s.queue.refs.map turns).sum

/-- The turns that the record in the pump's hand still has. -/
def handTurns (turns : Ref → Nat) (s : System α) : Nat := s.pump.elim 0 (·.returns turns)

/-- How often a record is taken out of a closed delay queue at most, if each has that many turns. -/
def allTurns (turns : Ref → Nat) (s : System α) : Nat := s.queuedTurns turns + s.handTurns turns

/-- How often a record is taken out of a closed delay queue at most. -/
def potential (s : System α) : Nat := s.allTurns s.turns

/-- The number of entries of the delay queue and records in the pump's hand. -/
def load (s : System α) : Nat := s.queue.entries.length + s.inHand.length

/-- The sections that the pump has at most before it lets go of the record in hand. -/
def handRank (s : System α) : Nat := s.pump.elim 0 (·.rank)

/-- The record that the pump takes out of the delay queue. -/
def popped (s : System α) (_ : Action α) (t : System α) : List Ref :=
  if s.pump == some .waiting then t.inHand else []

/-- The pump carries out a section, and is not told that the delay queue is drained. -/
def drainsOn (s : System α) (a : Action α) (t : System α) : Bool :=
  a.isPump && (s.pump.any (·.isConsumer) && !answersClosed s a t)

/-- The number of failed hand-offs of a periodic record runs over, and starts from zero again. -/
def losesCount (s : System α) (_ : Action α) (t : System α) : Bool :=
  s.inHand.any fun r => s.repeats r && decide (t.failures r < s.failures r)

theorem failures_lt (s : System α) (r : Ref) : s.failures r < UInt32.size := by
  cases hx : s.record? r with
  | none =>
    rw [failures_of_none hx]
    decide
  | some x =>
    rw [failures_of_record hx]
    exact x.failedHandoffs.toNat_lt

theorem turns_pos (s : System α) (r : Ref) : 0 < s.turns r := Nat.le_max_left _ _

theorem turns_le_of_failures (hconfig : t.config = s.config) (h : s.failures r ≤ t.failures r) :
    t.turns r ≤ s.turns r := by
  rw [turns, turns, hconfig]
  omega

theorem inHand_of_record {phase : PumpPhase} (hpump : s.pump = some phase)
    (hrecord : phase.record? = some r) : s.inHand = [r] := by
  rw [inHand, hpump, Option.bind_some, hrecord]
  rfl

theorem inHand_of_pump (h : t.pump = s.pump) : t.inHand = s.inHand := by rw [inHand, inHand, h]

theorem returns_mono {turns turns' : Ref → Nat} (h : ∀ r, turns' r ≤ turns r)
    (phase : PumpPhase) : phase.returns turns' ≤ phase.returns turns := by
  cases phase with
  | postponing r _ | offering r => exact h r
  | holding r _ | checked r _ | pausing r _ | handing r | faulted r _ | withdrawn r _
  | failed r _ => exact Nat.sub_le_sub_right (h r) 1
  | _ => exact Nat.zero_le _

theorem returns_le_turns (phase : PumpPhase) (turns : Ref → Nat) :
    phase.returns turns ≤ (phase.record?.toList.map turns).sum := by
  cases phase <;> simp [PumpPhase.returns, PumpPhase.record?]

theorem allTurns_mono {turns turns' : Ref → Nat} (h : ∀ r, turns' r ≤ turns r) (s : System α) :
    s.allTurns turns' ≤ s.allTurns turns := by
  refine Nat.add_le_add (List.sum_le_sum fun r _ => h r) ?_
  rw [handTurns, handTurns]
  cases s.pump with
  | none => exact Nat.zero_le _
  | some phase => exact returns_mono h phase

/-- What the pump has in hand counts for a turn even if it is not put back. -/
theorem potential_le_budget (s : System α) : s.potential ≤ s.drainBudget := by
  rw [potential, allTurns, queuedTurns, handTurns, drainBudget, List.map_append, List.sum_append]
  refine Nat.add_le_add_left ?_ _
  cases hpump : s.pump with
  | none => exact Nat.zero_le _
  | some phase =>
    rw [inHand, hpump]
    exact returns_le_turns phase s.turns

theorem handTurns_of_pump {phase : PumpPhase} (hpump : s.pump = some phase)
    (turns : Ref → Nat) : s.handTurns turns = phase.returns turns := by
  rw [handTurns, hpump]
  rfl

/-- The pump is not there, or through with the delay queue. -/
theorem idle_cases (h : s.pump.any (·.isConsumer) = false) :
    s.pump = none ∨ ∃ phase, s.pump = some phase ∧
      (phase = .stopping ∨ phase = .awaiting ∨ phase = .marking ∨
        ∃ failure, phase = .collapsed failure) := by
  cases hpump : s.pump with
  | none => exact .inl rfl
  | some phase =>
    rw [hpump, Option.any_some] at h
    refine .inr ⟨phase, rfl, ?_⟩
    cases phase with
    | stopping => exact .inl rfl
    | awaiting => exact .inr (.inl rfl)
    | marking => exact .inr (.inr (.inl rfl))
    | collapsed failure => exact .inr (.inr (.inr ⟨failure, rfl⟩))
    | _ => cases h

theorem record_of_idle (h : s.pump.any (·.isConsumer) = false) :
    s.pump.bind (·.record?) = none := by
  rcases idle_cases h with hpump | ⟨_, hpump, rfl | rfl | rfl | ⟨_, rfl⟩⟩ <;> rw [hpump] <;> rfl

theorem handTurns_of_idle (h : s.pump.any (·.isConsumer) = false) (turns : Ref → Nat) :
    s.handTurns turns = 0 := by
  rcases idle_cases h with hpump | ⟨_, hpump, rfl | rfl | rfl | ⟨_, rfl⟩⟩ <;>
    rw [handTurns, hpump] <;> rfl

theorem handRank_of_idle (h : s.pump.any (·.isConsumer) = false) : s.handRank = 0 := by
  rcases idle_cases h with hpump | ⟨_, hpump, rfl | rfl | rfl | ⟨_, rfl⟩⟩ <;>
    rw [handRank, hpump] <;> rfl

/-! ## Sums over entries -/

theorem sum_insertEntry (f : Ref → Nat) (k : Key) (r : Ref) (l : List (Key × Ref)) :
    (((DelayQueue.insertEntry k r l).map (·.2)).map f).sum ≤ ((l.map (·.2)).map f).sum + f r := by
  induction l with
  | nil => simp [DelayQueue.insertEntry]
  | cons e rest ih =>
    obtain ⟨k', r'⟩ := e
    simp only [DelayQueue.insertEntry]
    split
    · simp only [List.map_cons, List.sum_cons]
      omega
    · split
      · simp only [List.map_cons, List.sum_cons]
        omega
      · simp only [List.map_cons, List.sum_cons]
        omega

theorem sum_entriesWith (f : Ref → Nat) (pending : Bool) (k : Key) (r : Ref)
    (l : List (Key × Ref)) :
    (((DelayQueue.entriesWith pending k r l).map (·.2)).map f).sum ≤
      ((l.map (·.2)).map f).sum + f r := by
  cases pending with
  | true => exact sum_insertEntry f k r l
  | false => exact Nat.le_add_right _ _

/-! ## Steps -/

/-- What a step does to the pump and to the entries of a delay queue that is closed, if it does not
note a failed hand-off. -/
inductive Drains (s : System α) (a : Action α) (t : System α) : Prop where
  /-- The pump takes the first entry. -/
  | took {k : Key} {r : Ref} {rest : List (Key × Ref)} {early : Bool} :
      s.pump = some .waiting → s.queue.entries = (k, r) :: rest →
      t.pump = some (.holding r early) → t.queue.entries = rest → Drains s a t
  /-- The pump goes on with the record in hand. -/
  | wentOn {phase next : PumpPhase} {r : Ref} : s.pump = some phase → t.pump = some next →
      phase.record? = some r → next.record? = some r → next.rank < phase.rank →
      (∀ turns, next.returns turns ≤ phase.returns turns) →
      t.queue.entries = s.queue.entries → Drains s a t
  /-- The pump lets go of the record in hand. -/
  | letGo {phase : PumpPhase} {r : Ref} : s.pump = some phase → phase.record? = some r →
      t.pump = some .waiting → t.queue.entries = s.queue.entries → Drains s a t
  /-- The pump puts the record in hand back. -/
  | putBack {r : Ref} : s.pump = some (.offering r) → t.pump = some .waiting →
      t.queue.entries =
        DelayQueue.entriesWith (s.isPending r) (s.key r) r s.queue.entries → Drains s a t
  /-- The pump is told that the delay queue is drained. -/
  | drained : s.pump = some .waiting → s.queue.entries = [] → t.pump = some .stopping →
      t.queue.entries = [] → Drains s a t
  /-- The pump is through with the delay queue. -/
  | woundUp {phase : PumpPhase} : s.pump = some phase → phase.isConsumer = false →
      t.pump.any (·.isConsumer) = false → t.queue.entries = s.queue.entries → Drains s a t
  /-- Others may start the pump, and take entries out. -/
  | aside : a.isPump = false →
      t.pump = s.pump ∨ (s.pump = none ∧ t.pump = some .waiting) →
      t.queue.entries.Sublist s.queue.entries → Drains s a t

theorem Drains.congr (h : Drains s a t) (hcore : u.core = t.core) : Drains s a u := by
  have hpump : u.pump = t.pump := congrArg (fun w => w.pump) hcore
  have hqueue : u.queue = t.queue := congrArg (fun w => w.queue) hcore
  cases h with
  | took hbefore hentries hafter hrest =>
    exact .took hbefore hentries (hpump.trans hafter) (hqueue ▸ hrest)
  | wentOn hbefore hafter hrecord hnext hrank hreturns hsame =>
    exact .wentOn hbefore (hpump.trans hafter) hrecord hnext hrank hreturns (hqueue ▸ hsame)
  | letGo hbefore hrecord hafter hsame =>
    exact .letGo hbefore hrecord (hpump.trans hafter) (hqueue ▸ hsame)
  | putBack hbefore hafter hentries =>
    exact .putBack hbefore (hpump.trans hafter) (hqueue ▸ hentries)
  | drained hbefore hnil hafter hnil' =>
    exact .drained hbefore hnil (hpump.trans hafter) (hqueue ▸ hnil')
  | woundUp hbefore hphase hafter hsame =>
    exact .woundUp hbefore hphase (hpump ▸ hafter) (hqueue ▸ hsame)
  | aside ha hkept hless => exact .aside ha (hpump ▸ hkept) (hqueue ▸ hless)

theorem GoesOn.rank_lt {phase next : PumpPhase} (h : GoesOn s phase next) :
    next.rank < phase.rank ∧ ∀ turns, next.returns turns ≤ phase.returns turns := by
  cases h with
  | decided =>
    rcases s.pumpDecide_cases _ _ with heq | ⟨_, heq⟩ | heq <;> rw [heq]
    · exact ⟨by simp [PumpPhase.rank], fun _ => Nat.zero_le _⟩
    · exact ⟨by simp [PumpPhase.rank], fun _ => Nat.le_refl _⟩
    · exact ⟨by simp [PumpPhase.rank], fun _ => Nat.le_refl _⟩
  | @faulted phase r failure hfaults hrecord =>
    cases phase <;> cases hfaults <;> cases hrecord <;>
      exact ⟨by simp [PumpPhase.rank], fun _ => Nat.le_refl _⟩
  | _ => exact ⟨by simp [PumpPhase.rank], fun _ => Nat.le_refl _⟩

theorem PumpMove.drains (h : PumpMove s t) (hs : Reachable s) (hclosed : s.queue.closed = true) :
    (∃ r, Notes s t r) ∨ Drains s a t := by
  cases h with
  | noted hpump hafter => exact .inl ⟨_, hs.notes hpump hafter⟩
  | took hpump hentries _ => exact .inr (.took hpump hentries rfl rfl)
  | idled _ _ hopen =>
    rw [hopen] at hclosed
    cases hclosed
  | drained hpump hnil _ => exact .inr (.drained hpump hnil rfl hnil)
  | passedOver hpump hrecord _ _ => exact .inr (.letGo hpump hrecord rfl rfl)
  | wentOn hpump hgoes =>
    obtain ⟨r, hrecord, hnext⟩ := hgoes.record
    exact .inr (.wentOn hpump rfl hrecord hnext hgoes.rank_lt.1 hgoes.rank_lt.2 rfl)
  | gaveUp hpump => exact .inr (.letGo hpump rfl rfl rfl)
  | handedOver _ hpump _ => exact .inr (.letGo hpump rfl rfl rfl)
  | refused _ hpump _ =>
    exact .inr (.wentOn hpump rfl rfl rfl (by simp [PumpPhase.rank]) (fun _ => Nat.le_refl _) rfl)
  | unwound _ hpump _ =>
    exact .inr (.wentOn hpump rfl rfl rfl (by simp [PumpPhase.rank]) (fun _ => Nat.le_refl _) rfl)
  | withdrew hpump =>
    exact .inr (.wentOn hpump rfl rfl rfl (by simp [PumpPhase.rank]) (fun _ => Nat.le_refl _) rfl)
  | rejected hpump => exact .inr (.letGo hpump rfl rfl rfl)
  | postponed hpump =>
    exact .inr (.wentOn hpump rfl rfl rfl (by simp [PumpPhase.rank]) (fun _ => Nat.le_refl _) rfl)
  | returned hpump => exact .inr (.putBack hpump rfl (DelayQueue.putBack_entries ..).1)
  | stopped hpump hnext =>
    refine .inr (.woundUp hpump rfl ?_ rfl)
    rcases hnext with rfl | ⟨_, rfl⟩ <;> rfl
  | sawDrained hpump _ => exact .inr (.woundUp hpump rfl rfl rfl)
  | concluded hpump => exact .inr (.woundUp hpump rfl rfl rfl)

/-- Others than the pump only start it, and take entries out of a delay queue that is closed. -/
theorem Move.aside (h : Move s a t) (ha : a.isPump = false) (hclosed : s.queue.closed = true) :
    Drains s a t := by
  have hcalls : ∀ {duty duty' : Duty} {u : System α}, CallMove s duty u duty' →
      u.queue.entries.Sublist s.queue.entries := by
    intro duty duty' u hmove
    cases hmove with
    | offered hoffer => exact absurd hoffer (DelayQueue.offer_ne_some hclosed)
    | removed | retracted =>
      rw [(DelayQueue.remove_entries ..).1]
      exact List.filter_sublist
    | _ => exact .refl _
  refine .aside ha ?_ ?_
  · cases hpump : s.pump with
    | some phase =>
      left
      rw [h.pump_kept ha (by rw [hpump]; exact Option.some_ne_none _), hpump]
    | none =>
      cases hnext : t.pump with
      | none => exact .inl rfl
      | some next =>
        refine .inr ⟨rfl, ?_⟩
        by_cases hwaiting : next = .waiting
        · rw [hwaiting]
        · rcases h.pump_from hnext hwaiting with hbefore | hmove
          · rw [hpump] at hbefore
            cases hbefore
          · obtain ⟨phase, hbefore⟩ := hmove.pump_at_work
            rw [hpump] at hbefore
            cases hbefore
  · cases h with
    | begun hmove =>
      have hless := hcalls hmove
      exact hless
    | called _ hmove | callRefused _ hmove =>
      have hless := hcalls hmove
      exact hless
    | pumped _ | pumpIdled _ | pumpFaulted _ => cases ha
    | worked hmove =>
      cases hmove with
      | requeued _ hoffer => exact absurd hoffer (DelayQueue.offer_ne_some hclosed)
      | retracted =>
        rw [(DelayQueue.remove_entries ..).1]
        exact List.filter_sublist
      | _ => exact .refl _
    | _ => exact .refl _

/-- What a step does while the delay queue is closed. -/
theorem Reachable.step_drains (hs : Reachable s) (hclosed : s.queue.closed = true)
    (hstep : s.step a = some s') :
    (∃ r, Notes s s' r) ∨ ((∀ r, s'.failures r = s.failures r) ∧ Drains s a s') := by
  obtain ⟨t, hmove, hcore⟩ := step_move hstep
  have hdrains : (∃ r, Notes s t r) ∨ Drains s a t := by
    cases ha : a.isPump with
    | false => exact .inr (hmove.aside ha hclosed)
    | true =>
      cases hmove with
      | pumped hpump | pumpIdled hpump | pumpFaulted hpump => exact hpump.drains hs hclosed
      | worked hworker => cases hworker <;> cases ha
      | declined hdeclined => rcases hdeclined with rfl | ⟨_, rfl⟩ <;> cases ha
      | _ => cases ha
  rcases hdrains with ⟨r, hnotes⟩ | hdrains
  · exact .inl ⟨r, hnotes.congr hcore⟩
  · exact (hs.step_failures hstep).imp_right fun hsame => ⟨hsame, hdrains.congr hcore⟩

/-! ## Potential -/

/-- The number has been counted up, as it has not run over. -/
theorem Notes.counted (h : Notes s t r) (hle : s.failures r ≤ t.failures r) :
    t.failures r = s.failures r + 1 := by
  have hlt := s.failures_lt r
  rcases Nat.lt_or_eq_of_le (Nat.succ_le_of_lt hlt) with hfits | hfull
  · exact h.noted.trans (Nat.mod_eq_of_lt hfits)
  · have hnone := h.noted
    rw [← Nat.succ_eq_add_one, hfull, Nat.mod_self] at hnone
    have hsize : UInt32.size = 4294967296 := rfl
    omega

theorem Notes.turns_lt (h : Notes s t r) (hconfig : t.config = s.config)
    (hle : s.failures r ≤ t.failures r) (hlimit : t.failures r < s.config.retryLimit.toNat) :
    t.turns r ≤ s.turns r - 1 := by
  have hcounted := h.counted hle
  rw [turns, turns, hconfig]
  omega

/-- A failed hand-off has used up a turn, if the record is to be put back. -/
theorem Notes.potential (h : Notes s t r) (hconfig : t.config = s.config)
    (hkept : ∀ r, s.failures r ≤ t.failures r) : t.potential ≤ s.potential := by
  have hqueued : t.queuedTurns t.turns ≤ s.queuedTurns s.turns := by
    rw [queuedTurns, queuedTurns, h.queue]
    exact List.sum_le_sum fun r' _ => turns_le_of_failures hconfig (hkept r')
  obtain ⟨reason, hpump⟩ := h.failed
  have hbefore : s.handTurns s.turns = s.turns r - 1 := handTurns_of_pump hpump _
  have hhand : t.handTurns t.turns ≤ s.turns r - 1 := by
    rcases h.after with ⟨_, hafter⟩ | ⟨_, hafter, hlimit⟩
    · rw [handTurns_of_pump hafter]
      exact Nat.zero_le _
    · rw [handTurns_of_pump hafter]
      exact h.turns_lt hconfig (hkept r) hlimit
  rw [System.potential, System.potential, allTurns, allTurns, hbefore]
  exact Nat.add_le_add hqueued hhand

theorem Notes.popped (h : Notes s t r) (a : Action α) : popped s a t = [] := by
  obtain ⟨reason, hpump⟩ := h.failed
  rw [System.popped, hpump]
  rfl

theorem Notes.handRank (h : Notes s t r) : t.handRank < s.handRank := by
  obtain ⟨reason, hpump⟩ := h.failed
  rw [System.handRank, System.handRank, hpump]
  rcases h.after with ⟨_, hafter⟩ | ⟨_, hafter, -⟩
  · rw [hafter]
    exact Nat.lt_of_sub_pos Nat.two_pos
  · rw [hafter]
    exact Nat.lt_succ_self 2

/-- A step takes a record out at the cost of a turn. -/
theorem Drains.allTurns (h : Drains s a t) {turns : Ref → Nat} (hpos : ∀ r, 0 < turns r) :
    t.allTurns turns + (System.popped s a t).length ≤ s.allTurns turns := by
  have hqueued : t.queue.entries = s.queue.entries →
      t.queuedTurns turns = s.queuedTurns turns := by
    intro hentries
    rw [queuedTurns, queuedTurns, DelayQueue.refs, DelayQueue.refs, hentries]
  have hnone : ∀ {phase : PumpPhase}, s.pump = some phase → phase ≠ .waiting →
      System.popped s a t = [] := by
    intro phase hpump hphase
    rw [System.popped, hpump, if_neg (by simpa using hphase)]
  have hempty : t.inHand = [] → System.popped s a t = [] := by
    intro hhand
    rw [System.popped, hhand, ite_self]
  rw [System.allTurns, System.allTurns]
  cases h with
  | @took k r rest early hpump hentries hafter hrest =>
    have hpopped : System.popped s a t = [r] := by
      rw [System.popped, hpump, if_pos (beq_self_eq_true _), inHand_of_record hafter rfl]
    have hbefore : s.queuedTurns turns = turns r + t.queuedTurns turns := by
      rw [queuedTurns, queuedTurns, DelayQueue.refs, DelayQueue.refs, hentries, hrest,
        List.map_cons, List.map_cons, List.sum_cons]
    have hpos := hpos r
    rw [hpopped, handTurns_of_pump hpump, handTurns_of_pump hafter]
    simp only [PumpPhase.returns, List.length_singleton]
    omega
  | wentOn hpump hafter hrecord _ hrank hreturns hentries =>
    rw [hnone hpump (by rintro rfl; cases hrecord), hqueued hentries, handTurns_of_pump hpump,
      handTurns_of_pump hafter]
    exact Nat.add_le_add_left (hreturns turns) _
  | letGo hpump hrecord hafter hentries =>
    rw [hnone hpump (by rintro rfl; cases hrecord), hqueued hentries, handTurns_of_pump hafter]
    exact Nat.le_add_right _ _
  | @putBack r hpump hafter hentries =>
    have hsum := sum_entriesWith turns (s.isPending r) (s.key r) r s.queue.entries
    rw [hnone hpump nofun, handTurns_of_pump hpump, handTurns_of_pump hafter]
    show t.queuedTurns turns ≤ s.queuedTurns turns + turns r
    rw [queuedTurns, queuedTurns, DelayQueue.refs, DelayQueue.refs, hentries]
    exact hsum
  | drained hpump hnil hafter hnil' =>
    rw [hempty (by rw [inHand, hafter]; rfl), hqueued (hnil'.trans hnil.symm),
      handTurns_of_pump hafter]
    exact Nat.le_add_right _ _
  | woundUp hpump hphase hafter hentries =>
    rw [hnone hpump (by rintro rfl; cases hphase), hqueued hentries, handTurns_of_idle hafter]
    exact Nat.le_add_right _ _
  | aside _ hkept hless =>
    have hle : t.queuedTurns turns ≤ s.queuedTurns turns :=
      ((hless.map _).map _).sum_le_sum fun _ _ => Nat.zero_le _
    rcases hkept with hsame | ⟨hidle, hstarted⟩
    · have hpopped : System.popped s a t = [] := by
        rw [System.popped, ite_eq_right_iff]
        intro hwaiting
        rw [inHand, hsame, eq_of_beq hwaiting]
        rfl
      rw [hpopped, handTurns, handTurns, hsame]
      exact Nat.add_le_add_right hle _
    · rw [hempty (by rw [inHand, hstarted]; rfl), handTurns_of_pump hstarted]
      exact Nat.le_trans hle (Nat.le_add_right _ _)

theorem rank_pos_of_record {phase : PumpPhase} (hrecord : phase.record? = some r) :
    0 < phase.rank := by
  cases phase <;> simp [PumpPhase.rank, PumpPhase.record?] at hrecord ⊢

/-- With every section the pump comes closer to letting go of the record in hand, if it does not
take one out. -/
theorem Drains.handRank (h : Drains s a t) :
    t.handRank < s.handRank ∨ (∃ r, System.popped s a t = [r]) ∨
      (drainsOn s a t = false ∧ t.handRank ≤ s.handRank) := by
  have hrank : ∀ {u : System α} {phase : PumpPhase}, u.pump = some phase →
      u.handRank = phase.rank := by
    intro u phase hu
    rw [System.handRank, hu]
    rfl
  cases h with
  | @took k r rest early hpump _ hafter _ =>
    refine .inr (.inl ⟨r, ?_⟩)
    rw [System.popped, hpump, if_pos (beq_self_eq_true _), inHand_of_record hafter rfl]
  | wentOn hpump hafter _ _ hless _ _ =>
    rw [hrank hpump, hrank hafter]
    exact .inl hless
  | letGo hpump hrecord hafter _ =>
    rw [hrank hpump, hrank hafter]
    exact .inl (rank_pos_of_record hrecord)
  | putBack hpump hafter _ =>
    rw [hrank hpump, hrank hafter]
    exact .inl Nat.one_pos
  | drained hpump _ hafter _ =>
    refine .inr (.inr ⟨?_, ?_⟩)
    · rw [drainsOn, answersClosed, hpump, hafter]
      simp
    · rw [hrank hpump, hrank hafter]
      exact Nat.le_refl _
  | woundUp hpump hphase hafter _ =>
    refine .inr (.inr ⟨?_, ?_⟩)
    · rw [drainsOn, hpump, Option.any_some, hphase, Bool.false_and, Bool.and_false]
    · rw [handRank_of_idle hafter]
      exact Nat.zero_le _
  | aside ha hkept _ =>
    refine .inr (.inr ⟨by rw [drainsOn, ha, Bool.false_and], ?_⟩)
    rcases hkept with hsame | ⟨-, hstarted⟩
    · rw [System.handRank, System.handRank, hsame]
    · rw [hrank hstarted]
      exact Nat.zero_le _

theorem handRank_le (s : System α) : s.handRank ≤ 9 := by
  rw [handRank]
  cases s.pump with
  | none => exact Nat.zero_le _
  | some phase => cases phase <;> simp [PumpPhase.rank]

/-- Where a record that is taken out costs one of what is left, a section of the pump costs at least
a tenth of that, or one of the sections before the record in hand is let go of. -/
theorem Reachable.step_sections {before after : Nat} (hs : Reachable s)
    (hclosed : s.queue.closed = true) (hstep : s.step a = some s')
    (hpaid : after + (popped s a s').length ≤ before) :
    10 * after + s'.handRank + (drainsOn s a s').toNat ≤ 10 * before + s.handRank := by
  have hone := Bool.toNat_le (drainsOn s a s')
  rcases hs.step_drains hclosed hstep with ⟨r, hnotes⟩ | ⟨-, hdrains⟩
  · have hrank := hnotes.handRank
    omega
  · rcases hdrains.handRank with hless | ⟨r, hpopped⟩ | ⟨hidle, hle⟩
    · omega
    · have hrank := s'.handRank_le
      rw [hpopped, List.length_singleton] at hpaid
      omega
    · rw [hidle, Bool.toNat_false]
      omega

/-- A record that is taken out costs one of the potential, if no number runs over. -/
theorem Reachable.step_potential (hs : Reachable s) (hclosed : s.queue.closed = true)
    (hstep : s.step a = some s') (hkept : ∀ r, s.failures r ≤ s'.failures r) :
    s'.potential + (popped s a s').length ≤ s.potential := by
  have hconfig := step_config hstep
  rcases hs.step_drains hclosed hstep with ⟨r, hnotes⟩ | ⟨hsame, hdrains⟩
  · rw [hnotes.popped a]
    exact hnotes.potential hconfig hkept
  · have hturns : s'.turns = s.turns := funext fun r => by rw [turns, turns, hconfig, hsame r]
    rw [potential, hturns]
    exact hdrains.allTurns s.turns_pos

/-! ## Numbers that run over -/

theorem turns_le_limit (s : System α) (r : Ref) : s.turns r ≤ s.handoffLimit := by
  rw [turns, handoffLimit]
  omega

/-- Every record has at most as many turns as hand-offs may be tried. -/
theorem budget_le_load (s : System α) : s.drainBudget ≤ s.handoffLimit * s.load := by
  have hsum : s.drainBudget ≤ ((s.queue.refs ++ s.inHand).map fun _ => s.handoffLimit).sum :=
    List.sum_le_sum fun r _ => s.turns_le_limit r
  rw [List.map_const', List.sum_replicate_nat, List.length_append, DelayQueue.refs,
    List.length_map, Nat.mul_comm] at hsum
  exact hsum

theorem Drains.load_le (h : Drains s a t) : t.load ≤ s.load := by
  have hhand : ∀ {u : System α} {phase : PumpPhase}, u.pump = some phase →
      u.inHand.length = phase.record?.toList.length := by
    intro u phase hu
    rw [inHand, hu]
    rfl
  rw [load, load]
  cases h with
  | took hpump hentries hafter hrest =>
    rw [hentries, hrest, hhand hafter, List.length_cons]
    exact Nat.le_add_right _ _
  | wentOn hpump hafter hrecord hnext _ _ hsame =>
    rw [hsame, hhand hpump, hhand hafter, hrecord, hnext]
  | letGo _ _ hafter hsame =>
    rw [hsame, hhand hafter]
    exact Nat.le_add_right _ _
  | putBack hpump hafter hback =>
    rw [hback, hhand hpump, hhand hafter]
    exact DelayQueue.length_entriesWith_le ..
  | drained hpump hnil hafter hnil' =>
    rw [hnil, hnil', hhand hafter]
    exact Nat.zero_le _
  | woundUp _ _ hafter hsame =>
    rw [hsame, show t.inHand = [] by rw [inHand, record_of_idle hafter]; rfl]
    exact Nat.le_add_right _ _
  | aside _ hkept hless =>
    refine Nat.add_le_add hless.length_le ?_
    rcases hkept with hsame | ⟨-, hstarted⟩
    · rw [inHand_of_pump hsame]
    · rw [hhand hstarted]
      exact Nat.zero_le _

theorem Notes.load (h : Notes s t r) : t.load = s.load := by
  obtain ⟨reason, hpump⟩ := h.failed
  have hafter : t.inHand = [r] := by
    rcases h.after with ⟨_, hafter⟩ | ⟨_, hafter, -⟩
    · exact inHand_of_record hafter rfl
    · exact inHand_of_record hafter rfl
  rw [System.load, System.load, h.queue, hafter, inHand_of_record hpump rfl]

theorem Reachable.step_load (hs : Reachable s) (hclosed : s.queue.closed = true)
    (hstep : s.step a = some s') : s'.load ≤ s.load := by
  rcases hs.step_drains hclosed hstep with ⟨r, hnotes⟩ | ⟨-, hdrains⟩
  · exact Nat.le_of_eq hnotes.load
  · exact hdrains.load_le

/-- Whatever becomes of the numbers of failed hand-offs, a step gives no more potential back than as
many turns for every record as hand-offs may be tried. -/
theorem Reachable.step_forgotten (hs : Reachable s) (hclosed : s.queue.closed = true)
    (hstep : s.step a = some s') :
    s'.potential + (popped s a s').length ≤ s.potential + s.handoffLimit * s.load := by
  rcases hs.step_drains hclosed hstep with ⟨r, hnotes⟩ | ⟨hsame, -⟩
  · have hlimit : s'.handoffLimit = s.handoffLimit := by
      rw [handoffLimit, handoffLimit, step_config hstep]
    have hbudget := Nat.le_trans s'.potential_le_budget s'.budget_le_load
    rw [hlimit, hnotes.load] at hbudget
    rw [hnotes.popped a, List.length_nil]
    omega
  · exact Nat.le_trans (hs.step_potential hclosed hstep fun r => Nat.le_of_eq (hsame r).symm)
      (Nat.le_add_right _ _)

/-! ## Copies -/

/-- The places that the dispatcher holds a record in: entries of the delay queue, and the pump's
hand. -/
def copies (s : System α) (r : Ref) : Nat := s.queue.holds r + s.pumpHolds r

theorem Drains.copies_le (h : Drains s a t) (hs : Numbered s) (r : Ref) :
    t.copies r ≤ s.copies r := by
  have hentries : t.queue.entries = s.queue.entries → t.queue.holds r = s.queue.holds r := by
    intro hsame
    rw [DelayQueue.holds, DelayQueue.holds, hsame]
  rw [copies, copies]
  cases h with
  | @took k r' rest early hpump hfirst hafter hrest =>
    rw [pumpHolds_of_record hafter rfl, pumpHolds_of_none (by rw [hpump]; rfl),
      DelayQueue.holds, DelayQueue.holds, hrest, hfirst, List.countP_cons]
    cases r' == r <;> exact Nat.le_refl _
  | wentOn hpump hafter hrecord hnext _ _ hsame =>
    rw [hentries hsame, pumpHolds_of_record hafter hnext, pumpHolds_of_record hpump hrecord]
  | letGo hpump hrecord hafter hsame =>
    rw [hentries hsame, pumpHolds_of_none (s := t) (by rw [hafter]; rfl)]
    exact Nat.le_add_right _ _
  | putBack hpump hafter hback =>
    have hle := (holds_offered hs hback r).2.1
    rw [pumpHolds_of_record hpump rfl, pumpHolds_of_none (s := t) (by rw [hafter]; rfl)]
    exact hle
  | drained hpump hnil hafter hnil' =>
    rw [hentries (hnil'.trans hnil.symm), pumpHolds_of_none (s := t) (by rw [hafter]; rfl)]
    exact Nat.le_add_right _ _
  | woundUp hpump hphase hafter hsame =>
    rw [hentries hsame, pumpHolds_of_none (record_of_idle hafter)]
    exact Nat.le_add_right _ _
  | aside _ hkept hless =>
    have hle : t.queue.holds r ≤ s.queue.holds r := hless.countP_le
    refine Nat.add_le_add hle ?_
    rcases hkept with hsame | ⟨-, hstarted⟩
    · rw [pumpHolds, pumpHolds, hsame]
    · rw [pumpHolds_of_none (by rw [hstarted]; rfl)]
      exact Nat.zero_le _

theorem Notes.copies (h : Notes s t r) (r' : Ref) : t.copies r' = s.copies r' := by
  obtain ⟨reason, hpump⟩ := h.failed
  have hafter : t.pumpHolds r' = (r == r').toNat := by
    rcases h.after with ⟨_, hafter⟩ | ⟨_, hafter, -⟩
    · exact pumpHolds_of_record hafter rfl r'
    · exact pumpHolds_of_record hafter rfl r'
  rw [System.copies, System.copies, h.queue, hafter, pumpHolds_of_record hpump rfl]

/-! ## The pump -/

/-- What the pump has in hand, it has taken out last. -/
theorem Reachable.step_inHand (hs : Reachable s) (hclosed : s.queue.closed = true)
    (hstep : s.step a = some s') : s'.inHand <:+ s.inHand ++ popped s a s' := by
  have hkept : s'.inHand = s.inHand → popped s a s' = [] →
      s'.inHand <:+ s.inHand ++ popped s a s' := by
    intro hsame hnone
    exact ⟨[], by rw [hsame, hnone, List.append_nil, List.nil_append]⟩
  have hempty : s'.inHand = [] → s'.inHand <:+ s.inHand ++ popped s a s' := by
    intro hnone
    rw [hnone]
    exact List.nil_suffix
  rcases hs.step_drains hclosed hstep with ⟨r, hnotes⟩ | ⟨-, hdrains⟩
  · obtain ⟨reason, hpump⟩ := hnotes.failed
    refine hkept ?_ (hnotes.popped a)
    rw [inHand_of_record hpump rfl]
    rcases hnotes.after with ⟨_, hafter⟩ | ⟨_, hafter, -⟩
    · exact inHand_of_record hafter rfl
    · exact inHand_of_record hafter rfl
  · cases hdrains with
    | took hpump _ hafter _ =>
      rw [popped, hpump, if_pos (beq_self_eq_true _)]
      exact List.suffix_append _ _
    | @wentOn phase next r hpump hafter hrecord hnext _ _ _ =>
      refine hkept ((inHand_of_record hafter hnext).trans (inHand_of_record hpump hrecord).symm) ?_
      rw [popped, hpump, if_neg]
      rintro hwaiting
      cases eq_of_beq hwaiting
      cases hrecord
    | letGo _ _ hafter _ => exact hempty (by rw [inHand, hafter]; rfl)
    | putBack _ hafter _ => exact hempty (by rw [inHand, hafter]; rfl)
    | drained _ _ hafter _ => exact hempty (by rw [inHand, hafter]; rfl)
    | woundUp _ _ hafter _ => exact hempty (by rw [inHand, record_of_idle hafter]; rfl)
    | aside _ hsame _ =>
      rcases hsame with hsame | ⟨-, hstarted⟩
      · refine hkept (inHand_of_pump hsame) ?_
        rw [popped, ite_eq_right_iff]
        intro hwaiting
        rw [inHand, hsame, eq_of_beq hwaiting]
        rfl
      · exact hempty (by rw [inHand, hstarted]; rfl)

/-- What gets into a closed delay queue is a record that the pump puts back. -/
theorem Reachable.step_enters {e : Key × Ref} (hs : Reachable s) (hclosed : s.queue.closed = true)
    (hstep : s.step a = some s') (he : e ∈ s'.queue.entries) (hnew : e ∉ s.queue.entries) :
    ∃ r, s.pump = some (.offering r) ∧ s'.pump = some .waiting ∧ e = (s.key r, r) := by
  rcases hs.step_drains hclosed hstep with ⟨r, hnotes⟩ | ⟨-, hdrains⟩
  · rw [hnotes.queue] at he
    exact absurd he hnew
  · cases hdrains with
    | took _ hentries _ hrest =>
      rw [hrest] at he
      rw [hentries] at hnew
      exact absurd (List.mem_cons_of_mem _ he) hnew
    | putBack hpump hafter hentries =>
      rw [hentries] at he
      rcases DelayQueue.mem_entriesWith he with ⟨-, rfl⟩ | hold
      · exact ⟨_, hpump, hafter, rfl⟩
      · exact absurd hold hnew
    | drained _ _ _ hnil =>
      rw [hnil] at he
      cases he
    | wentOn _ _ _ _ _ _ hsame | letGo _ _ _ hsame | woundUp _ _ _ hsame =>
      rw [hsame] at he
      exact absurd he hnew
    | aside _ _ hless => exact absurd (hless.subset he) hnew

/-- The pump is told that a closed delay queue is drained when it asks while the queue is empty. -/
theorem Reachable.step_answers (hs : Reachable s) (hclosed : s.queue.closed = true)
    (hstep : s.step a = some s') (ha : a.isPump = true) :
    answersClosed s a s' = true ↔ s.pump = some .waiting ∧ s.queue.entries = [] := by
  rw [answersClosed, Bool.and_eq_true, beq_iff_eq, beq_iff_eq]
  refine and_congr_right fun hwaiting => ?_
  rcases hs.step_drains hclosed hstep with ⟨r, hnotes⟩ | ⟨-, hdrains⟩
  · obtain ⟨reason, hpump⟩ := hnotes.failed
    rw [hwaiting] at hpump
    cases hpump
  · cases hdrains with
    | took _ hentries hafter _ =>
      rw [hafter, hentries]
      constructor
      · rintro ⟨⟩
      · rintro ⟨⟩
    | drained _ hnil hafter _ => exact ⟨fun _ => hnil, fun _ => hafter⟩
    | wentOn hpump _ hrecord _ _ _ _ =>
      rw [hwaiting] at hpump
      cases hpump
      cases hrecord
    | letGo hpump hrecord _ _ =>
      rw [hwaiting] at hpump
      cases hpump
      cases hrecord
    | putBack hpump _ _ =>
      rw [hwaiting] at hpump
      cases hpump
    | woundUp hpump hphase _ _ =>
      rw [hwaiting] at hpump
      cases hpump
      cases hphase
    | aside hnot _ _ =>
      rw [ha] at hnot
      cases hnot

/-- A pump that serves a closed delay queue has a section to carry out, unless it sleeps until a
record may be tried again. -/
theorem pump_goes_on (hclosed : s.queue.closed = true)
    (hconsumer : s.pump.any (·.isConsumer) = true) (choice : Nat) :
    (∃ s', s.step (.pump choice) = some s') ∨
      ∃ r wakeAt, s.pump = some (.pausing r wakeAt) ∧ s.now < wakeAt := by
  obtain ⟨phase, hpump, hphase⟩ := (Option.any_eq_true _ _).mp hconsumer
  show (∃ s', s.pumpStep choice = some s') ∨ _
  cases phase with
  | waiting =>
    left
    rw [pumpStep, hpump]
    simp only [pumpTake, DelayQueue.take?, hclosed, or_true, if_true]
    cases s.queue.entries with
    | nil => exact ⟨_, rfl⟩
    | cons e rest => exact ⟨_, rfl⟩
  | pausing r wakeAt =>
    by_cases hawake : wakeAt ≤ s.now
    · left
      rw [pumpStep, hpump]
      simp only [if_pos hawake]
      exact ⟨_, rfl⟩
    · exact .inr ⟨r, wakeAt, hpump, Int.not_le.mp hawake⟩
  | checked r early =>
    left
    rw [pumpStep, hpump]
    simp only
    split <;> exact ⟨_, rfl⟩
  | handing r =>
    left
    rw [pumpStep, hpump]
    simp only
    split <;> exact ⟨_, rfl⟩
  | stopping | awaiting | marking | collapsed _ => cases hphase
  | _ =>
    left
    rw [pumpStep, hpump]
    exact ⟨_, rfl⟩

end System

end TaskScheduler
