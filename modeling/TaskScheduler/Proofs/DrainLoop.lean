import TaskScheduler.Proofs.Draining.Periodic
import TaskScheduler.Proofs.Release
import TaskScheduler.Proofs.Trace

/-
  The pump comes to an end with a closed delay queue.

  `Reachable.exec_paid`: what pays for every record that is taken out pays for the run of the pump.
  `Reachable.exec_inHand`: what the pump has in hand, it has taken out last. `drain_loop_ends` puts
  this together.

  There are two such payments. In `potential` the turns of a record are counted by its number of
  failed hand-offs, and start anew when that number runs over at the end of its word. That of a
  record that runs once never does. That of a periodic record does not if the delay queue is closed
  after a run with factories that let no panic through, since then no record is held twice
  (`Spare`). In `closingPotential` a periodic record has one turn, whatever its number, and gets
  another one when a panic ends its hand-off before the pump has looked at the delay queue.
-/
namespace TaskScheduler.System

variable {α : Type} {s s' t : System α} {a : Action α} {r : Ref}

/-- The records that the pump takes out of the delay queue, one after the other. -/
def pops (s : System α) (actions : List (Action α)) : List Ref := notes System.step popped s actions

/-- A number that runs over is that of a periodic record. -/
theorem Reachable.failures_le (hs : Reachable s) (hstep : s.step a = some s')
    (hnot : losesCount s a s' = false) (r : Ref) : s.failures r ≤ s'.failures r := by
  cases hrepeats : s.repeats r with
  | false => exact hs.step_failures_once hstep hrepeats
  | true =>
    rcases hs.step_failures hstep with ⟨r', hnotes⟩ | hsame
    · by_cases hr : r = r'
      · subst hr
        obtain ⟨reason, hpump⟩ := hnotes.failed
        rw [losesCount, inHand_of_record hpump rfl, List.any_cons, List.any_nil, Bool.or_false,
          hrepeats, Bool.true_and, decide_eq_false_iff_not] at hnot
        exact Nat.le_of_not_lt hnot
      · exact Nat.le_of_eq (hnotes.others r hr).symm
    · exact Nat.le_of_eq (hsame r).symm

/-- What pays for every record that is taken out pays for every section of the pump, but for what is
added to it on the way. -/
theorem Reachable.exec_paid {P : System α → Prop} {left : System α → Nat}
    {adds : System α → Action α → System α → Bool} {amount : Nat} {actions : List (Action α)}
    (paid : ∀ {s s' : System α} {a : Action α}, Reachable s → s.queue.closed = true → P s →
      s.step a = some s' → P s' ∧
        left s' + (popped s a s').length ≤ left s + amount * (adds s a s').toNat)
    (hs : Reachable s) (hclosed : s.queue.closed = true) (hP : P s)
    (hrun : s.exec actions = some t) :
    left t + (s.pops actions).length ≤ left s + amount * s.occurrences adds actions ∧
      10 * left t + t.handRank + s.occurrences drainsOn actions ≤
        10 * (left s + amount * s.occurrences adds actions) + s.handRank := by
  induction actions generalizing s with
  | nil =>
    cases hrun
    exact ⟨Nat.le_add_right _ _, Nat.add_le_add_right (Nat.mul_le_mul_left _
      (Nat.le_add_right _ _)) _⟩
  | cons a rest ih =>
    obtain ⟨s', hstep, hrest⟩ := exec_cons hrun
    obtain ⟨hP', hpaid⟩ := paid hs hclosed hP hstep
    have hsections := hs.step_sections hclosed hstep hpaid
    obtain ⟨hpops', hsections'⟩ :=
      ih (hs.step a hstep) (step_closed hstep hclosed) hP' hrest
    unfold pops at hpops'
    rw [occurrences_cons hstep, occurrences_cons hstep, pops, notes_cons hstep, List.length_append,
      Nat.mul_add]
    exact ⟨by omega, by omega⟩

/-- Over a run the potential pays for what the pump does, but for the turns that start anew. -/
theorem Reachable.exec_potential {actions : List (Action α)} (hs : Reachable s)
    (hclosed : s.queue.closed = true) (hrun : s.exec actions = some t) :
    t.potential + (s.pops actions).length ≤
        s.potential + s.handoffLimit * s.load * s.occurrences losesCount actions ∧
      10 * t.potential + t.handRank + s.occurrences drainsOn actions ≤
        10 * (s.potential + s.handoffLimit * s.load * s.occurrences losesCount actions) +
          s.handRank := by
  refine exec_paid (P := fun u => u.load ≤ s.load ∧ u.handoffLimit = s.handoffLimit)
    (fun {u u' a} hu hclosed' hP hstep => ⟨⟨?_, ?_⟩, ?_⟩) hs hclosed ⟨Nat.le_refl _, rfl⟩ hrun
  · exact Nat.le_trans (hu.step_load hclosed' hstep) hP.1
  · rw [← hP.2, handoffLimit, handoffLimit, step_config hstep]
  · cases hlost : losesCount u a u' with
    | false => exact hu.step_potential hclosed' hstep (hu.failures_le hstep hlost)
    | true =>
      have hanew : u.handoffLimit * u.load ≤ s.handoffLimit * s.load :=
        Nat.mul_le_mul (Nat.le_of_eq hP.2) hP.1
      have hpaid := hu.step_forgotten hclosed' hstep
      rw [Bool.toNat_true, Nat.mul_one]
      omega

/-- Over a run the pump pays for what it does with one turn for each periodic record, but for those
that it gets back by panics before it has looked at the delay queue. -/
theorem Reachable.exec_closing {actions : List (Action α)} (hs : Reachable s)
    (hclosed : s.queue.closed = true) (hrun : s.exec actions = some t) :
    t.closingPotential + (s.pops actions).length ≤
        s.closingPotential + 1 * s.occurrences panicsUndecided actions ∧
      10 * t.closingPotential + t.handRank + s.occurrences drainsOn actions ≤
        10 * (s.closingPotential + 1 * s.occurrences panicsUndecided actions) + s.handRank := by
  refine exec_paid (P := fun _ => True)
    (fun hu hclosed' _ hstep => ⟨trivial, ?_⟩) hs hclosed trivial hrun
  rw [Nat.one_mul]
  exact hu.step_closing hclosed' hstep

theorem Reachable.exec_inHand {actions : List (Action α)} (hs : Reachable s)
    (hclosed : s.queue.closed = true) (hrun : s.exec actions = some t) :
    t.inHand <:+ s.inHand ++ s.pops actions := by
  induction actions generalizing s with
  | nil =>
    cases hrun
    exact ⟨[], (List.append_nil _).symm⟩
  | cons a rest ih =>
    obtain ⟨s', hstep, hrest⟩ := exec_cons hrun
    obtain ⟨before, hbefore⟩ := hs.step_inHand hclosed hstep
    rw [pops, notes_cons hstep, ← List.append_assoc, ← hbefore, List.append_assoc]
    exact (ih (hs.step a hstep) (step_closed hstep hclosed) hrest).trans (List.suffix_append _ _)

/-! ## Numbers that do not run over -/

/-- The dispatcher holds no record twice, and none has had more failed hand-offs than are allowed,
at a time when the delay queue is closed. -/
structure Spare (s : System α) : Prop where
  reachable : Reachable s
  closed : s.queue.closed = true
  sole : ∀ r, s.copies r ≤ 1
  limited : ∀ r, Limited s r (s.copies r)

theorem Spare.copies_le (h : Spare s) (hstep : s.step a = some s') (r : Ref) :
    s'.copies r ≤ s.copies r := by
  rcases h.reachable.step_drains h.closed hstep with ⟨r', hnotes⟩ | ⟨-, hdrains⟩
  · exact Nat.le_of_eq (hnotes.copies r)
  · exact hdrains.copies_le h.reachable.numbered r

/-- No number runs over, whatever becomes of the hand-offs: a closed delay queue gets no record back
that the dispatcher has let go of. -/
theorem Spare.step (h : Spare s) (hstep : s.step a = some s') :
    losesCount s a s' = false ∧ Spare s' := by
  refine ⟨?_, ⟨h.reachable.step a hstep, step_closed hstep h.closed,
    fun r => Nat.le_trans (h.copies_le hstep r) (h.sole r), fun r => ?_⟩⟩
  · refine eq_false_of_ne_true fun hlost => ?_
    obtain ⟨r, -, hless⟩ := List.any_eq_true.mp hlost
    have hless : s'.failures r < s.failures r :=
      of_decide_eq_true (Bool.and_eq_true_iff.mp hless).2
    rcases h.reachable.step_failures hstep with ⟨r', hnotes⟩ | hsame
    · by_cases hr : r = r'
      · subst hr
        obtain ⟨reason, hpump⟩ := hnotes.failed
        have hhand : s.copies r = s.queue.holds r + 1 := by
          rw [copies, pumpHolds_of_record hpump rfl, beq_self_eq_true, Bool.toNat_true]
        have hlt := (h.limited r).countable (by omega) hpump
        have hnoted := hnotes.noted
        rw [Nat.mod_eq_of_lt (Nat.lt_of_le_of_lt hlt s.handoffLimit_lt)] at hnoted
        omega
      · rw [hnotes.others r hr] at hless
        exact Nat.lt_irrefl _ hless
    · rw [hsame r] at hless
      exact Nat.lt_irrefl _ hless
  · have hle := h.copies_le hstep r
    refine (h.limited r).step h.reachable hstep (fun reason hpump => ?_)
      (fun hzero => .inl (by omega)) ?_
    · rw [copies, pumpHolds_of_record hpump rfl, beq_self_eq_true]
      exact Nat.succ_pos _
    rintro ⟨reason, hpump⟩
    rcases step_rejecting hstep hpump with hsame | ⟨hnone, -, hqueue, -, -⟩
    · exact .inl ⟨reason, hsame.trans hpump⟩
    · have hsole := h.sole r
      rw [copies, pumpHolds_of_record hpump rfl, beq_self_eq_true, Bool.toNat_true] at hsole
      right
      rw [copies, hqueue, pumpHolds_of_none hnone]
      omega

/-- What is reached with factories that let no panic through, up to the time when the delay queue is
closed. -/
theorem Spare.of_contained (host : Host) (name : String) (config : ServiceConfig)
    (clockEnd now : Instant) {actions : List (Action α)} (hactions : ∀ a ∈ actions, a.Contained)
    (hrun : (System.initial host name config clockEnd now).exec actions = some s)
    (hclosed : s.queue.closed = true) : Spare s := by
  have hstart : Steady (System.initial host name config clockEnd now : System α) := .initial ..
  have hreach := hstart.reachable.exec hrun
  have hplaces : ∀ r, s.copies r ≤ s.places r + s.arriving r := fun r =>
    Nat.le_trans (Nat.le_add_right _ _) (Nat.le_add_right _ _)
  refine ⟨hreach, hclosed, fun r => ?_, fun r => ?_⟩
  · exact Nat.le_trans (hplaces r)
      (exec_sole hstart.reachable hstart.contained (hstart.sole r) hactions hrun)
  · exact (hstart.exec_limited (fun r => .inl (Nat.le_max_left _ _)) hactions hrun r).mono
      (hplaces r)

theorem Spare.exec (h : Spare s) (actions : List (Action α)) :
    s.occurrences losesCount actions = 0 :=
  occurrences_eq_zero (fun h hstep => h.step hstep) h actions

/-! ## The result -/

/-- Once the delay queue is closed, the pump takes records out of it at most as often as the records
in the queue, and the one that it may have in hand, may still be tried: until the limit on failed
hand-offs, and at least once. It takes one out more often only if two things come together. The
number of failed hand-offs of a periodic record runs over, which needs a factory that let a panic
through before the closing; and panics end hand-offs of periodic records before the pump has looked
whether the delay queue is closed, each of which costs one turn more. However the hand-offs go, the
pump carries out no more than ten sections for each of these turns, and nine for the record in hand,
before it is told that the queue is drained; it is told so exactly when it asks while the queue is
empty. Meanwhile it has always a section to carry out, except that it may sleep before it tries a
record again. And no step puts an entry in except the retry of the record that was taken out
last. -/
theorem drain_loop_ends (host : Host) (name : String) (config : ServiceConfig)
    (clockEnd now : Instant) {before after : List (Action α)}
    (hbefore : (System.initial host name config clockEnd now).exec before = some s)
    (hclosed : s.queue.closed = true) (hafter : s.exec after = some t) :
    (s.pops after).length ≤
        s.drainBudget + min (s.handoffLimit * s.load * s.occurrences losesCount after)
          (s.occurrences panicsUndecided after) ∧
      s.occurrences drainsOn after ≤
        10 * (s.drainBudget + min (s.handoffLimit * s.load * s.occurrences losesCount after)
          (s.occurrences panicsUndecided after)) + 9 ∧
      ((∀ a ∈ before, a.Contained) → s.occurrences losesCount after = 0) ∧
      (t.pump.any (·.isConsumer) = true → ∀ choice,
        (∃ u, t.step (.pump choice) = some u) ∨
          ∃ r wakeAt, t.pump = some (.pausing r wakeAt) ∧ t.now < wakeAt) ∧
      ∀ a u, t.step a = some u →
        (a.isPump = true →
          (answersClosed t a u = true ↔ t.pump = some .waiting ∧ t.queue.entries = [])) ∧
        ∀ e ∈ u.queue.entries, e ∉ t.queue.entries →
          ∃ r, t.pump = some (.offering r) ∧ u.pump = some .waiting ∧ e = (t.key r, r) ∧
            (s.inHand ++ s.pops after).getLast? = some r := by
  have hs : Reachable s := Reachable.exec (.initial host name config clockEnd now) hbefore
  have ht : Reachable t := hs.exec hafter
  have hclosed' : t.queue.closed = true :=
    exec_keeps (P := fun s => s.queue.closed = true)
      (fun _ hclosed hstep => step_closed hstep hclosed) hclosed hafter
  obtain ⟨hpops, hsections⟩ := hs.exec_potential hclosed hafter
  obtain ⟨hpops', hsections'⟩ := hs.exec_closing hclosed hafter
  have hbudget := s.potential_le_budget
  have hbudget' := s.closingPotential_le_budget
  have hrank := s.handRank_le
  refine ⟨by omega, by omega, fun hactions => ?_, pump_goes_on hclosed',
    fun a u hstep => ⟨?_, fun e he hnew => ?_⟩⟩
  · exact (Spare.of_contained host name config clockEnd now hactions hbefore hclosed).exec after
  · exact ht.step_answers hclosed' hstep
  · obtain ⟨r, hpump, hnext, rfl⟩ := ht.step_enters hclosed' hstep he hnew
    obtain ⟨earlier, hlast⟩ := hs.exec_inHand hclosed hafter
    refine ⟨r, hpump, hnext, rfl, ?_⟩
    rw [← hlast, inHand_of_record hpump rfl, List.getLast?_append, List.getLast?_singleton]
    rfl

/-- A service that tries two hand-offs, a second apart. -/
def persistent : ServiceConfig :=
  { ServiceConfig.ofProcessors 1 with
    dispatcher := { DispatcherConfig.standard with retryLimit := 2, retryBackoff := .ofSeconds 1 } }

/-- No worker can be started. A record that is due gets into the delay queue, which is closed. -/
def closedWithoutWorkers : List (Action Unit) :=
  [.setFactory { start := fun _ _ => .refused "no threads" }, .begin (.schedule .zero), .call 0 0,
    .call 0 0, .call 0 0, .call 0 0, .begin .dispose, .call 1 0, .call 1 0]

/-- The pump takes the record out twice, and rejects it when the second hand-off has failed. -/
def drainedWithoutWorkers : List (Action Unit) :=
  [.pump 0, .pump 0, .pump 0, .pump 0, .pump 0, .pump 0, .pump 0,
    .pump 0, .pump 0, .pump 0, .passTime (.ofSeconds 1),
    .pump 0, .pump 0, .pump 0, .pump 0, .pump 0]

/-- A record that no worker can be started for has two turns, and is taken out twice. -/
theorem refused_record_is_taken_out_twice :
    ∃ s t, (System.initial .lenient "service" persistent 1000000000000 0).exec
        closedWithoutWorkers = some s ∧
      s.queue.closed = true ∧ s.exec drainedWithoutWorkers = some t ∧
      t.pump = some .stopping ∧ t.state? 0 = some .failed ∧
      s.pops drainedWithoutWorkers = [0, 0] ∧ s.drainBudget = 2 ∧
      (s.pops drainedWithoutWorkers).length ≤ s.drainBudget ∧
      s.occurrences drainsOn drainedWithoutWorkers ≤ 10 * s.drainBudget + 9 := by
  have hruns : ((System.initial .lenient "service" persistent 1000000000000 0).exec
      closedWithoutWorkers).any (fun s => (s.exec drainedWithoutWorkers).any fun t =>
        decide (s.queue.closed = true ∧ t.pump = some .stopping ∧ t.state? 0 = some .failed ∧
          s.pops drainedWithoutWorkers = [0, 0] ∧ s.drainBudget = 2)) = true := by
    decide +kernel
  simp only [Option.any_eq_true, decide_eq_true_eq] at hruns
  obtain ⟨s, hbefore, t, hafter, hclosed, hpump, hstate, hpops, hbudget⟩ := hruns
  have hcontained : ∀ a ∈ closedWithoutWorkers, a.Contained := by
    simp [closedWithoutWorkers, Action.Contained, WorkerFactory.Contained]
  obtain ⟨hpopped, hsections, hcount, -⟩ :=
    drain_loop_ends .lenient "service" persistent 1000000000000 0 hbefore hclosed hafter
  rw [hcount hcontained, Nat.mul_zero, Nat.zero_min, Nat.add_zero] at hpopped hsections
  exact ⟨s, t, hbefore, hclosed, hafter, hpump, hstate, hpops, hbudget, hpopped, hsections⟩

end TaskScheduler.System
