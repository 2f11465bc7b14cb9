import TaskScheduler.Proofs.Shutdown

/-
  One pump for the delay queue, and never none that is needed.

  `Consumer` bounds the number of those who are the pump or have to start it. Here it is shown that
  they are there when they are needed, provided that every pump that is asked for can be started:
  its thread can have its name, and the operating system refuses none (`Action.refusesPump`).
  `Move.attends`: a move makes sure of a consumer, or leaves the delay queue no worse off, or it is
  the pump leaving the queue when nothing is in it, unless a pump is refused. So a queue with
  entries has a consumer (`Staffed`), and a closed one has one until the pump is told that it is
  drained (`Staffed.exec_closed`). `delay_queue_has_one_pump` puts this together.
-/
namespace TaskScheduler.System

variable {α : Type} {s s' t : System α} {a : Action α} {duty duty' : Duty}

/-- The pump, which waited for the delay queue, is told that it is closed and drained. -/
def answersClosed (s : System α) (_ : Action α) (t : System α) : Bool :=
  s.pump == some .waiting && t.pump == some .stopping

/-- What a move does for the consumer of the delay queue. -/
inductive Attends (s : System α) (a : Action α) (t : System α) : Prop where
  /-- There is a consumer afterwards. -/
  | assured : t.queue.consumerActive = true → Attends s a t
  /-- There is one if there was one, and no entry has been added. -/
  | kept : (s.queue.entries = [] → t.queue.entries = []) → t.queue.closed = s.queue.closed →
      t.queue.consumerActive = s.queue.consumerActive → Attends s a t
  /-- The pump has left a queue that is empty and open. -/
  | idled : t.queue.entries = [] → t.queue.closed = false → Attends s a t
  /-- The pump has left a queue that is empty and closed. -/
  | drained : t.queue.entries = [] → answersClosed s a t = true → Attends s a t
  /-- A pump has been refused. -/
  | refused : 0 < t.denied → Attends s a t

theorem Attends.of_queue (h : t.queue = s.queue) : Attends s a t :=
  .kept (fun hnil => by rw [h, hnil]) (by rw [h]) (by rw [h])

theorem Attends.of_remove {k : Key} (h : t.queue = (s.queue.remove k).1) : Attends s a t := by
  obtain ⟨hentries, hclosed, hactive⟩ := DelayQueue.remove_entries s.queue k
  rw [← h] at hentries hclosed hactive
  refine .kept (fun hnil => ?_) hclosed hactive
  rw [hentries, hnil]
  rfl

theorem CallMove.attends {u : System α} (h : CallMove s duty u duty')
    (howes : Discharges s t duty duty') (ht : t = { u with calls := t.calls }) :
    Attends s a t := by
  have hqueue : t.queue = u.queue := by rw [ht]
  have hrefused : duty.followsRefusal.toNat = 0 → duty'.followsRefusal.toNat = 1 →
      0 < t.denied := by
    intro hbefore hafter
    have := howes.count (·.followsRefusal) rfl
    rw [denied]
    omega
  cases h with
  | offered hoffer => exact .assured (hqueue ▸ (DelayQueue.offer_eq_some hoffer).2.2.1)
  | removed | retracted => exact .of_remove hqueue
  | closed => exact .assured (by rw [hqueue]; rfl)
  | unlaunched _ _ | replacedLast _ _ => exact .refused (hrefused rfl rfl)
  | _ => exact .of_queue hqueue

theorem PumpMove.attends (h : PumpMove s t) (hmanned : Manned s) : Attends s a t := by
  cases h with
  | took _ hentries _ =>
    refine .kept (fun hnil => ?_) rfl rfl
    rw [hnil] at hentries
    cases hentries
  | idled _ hentries hopen => exact .idled hentries hopen
  | drained hpump hentries _ => exact .drained hentries (by rw [answersClosed, hpump]; rfl)
  | @returned r hpump =>
    -- The pump that puts a record back is the consumer itself.
    rw [Manned, consumers, hpump] at hmanned
    refine .assured ((DelayQueue.putBack_entries s.queue _ _ r).2.2.trans ?_)
    cases hactive : s.queue.consumerActive with
    | true => rfl
    | false =>
      rw [hactive] at hmanned
      cases hmanned
  | _ => exact .of_queue rfl

theorem WorkerMove.attends {b : Action α} (h : WorkerMove s b t) : Attends s a t := by
  cases h with
  | requeued _ hoffer => exact .assured (DelayQueue.offer_eq_some hoffer).2.2.1
  | retracted _ => exact .of_remove rfl
  | @unlaunched i r k reason hphase _ _ =>
    have hafter := Pool.phase?_setPhase_self hphase (.retracting r k reason)
    exact .refused (Nat.lt_of_lt_of_le (Pool.tally_pos hafter rfl) (Nat.le_add_left _ _))
  | _ => exact .of_queue rfl

theorem Move.attends (h : Move s a t) (hmanned : Manned s) : Attends s a t := by
  rcases h.kinds with ⟨u, _, _, hcall, howes, ht⟩ | hpump | hworker | howner | ⟨now, rfl⟩
  · exact hcall.attends howes ht
  · exact hpump.attends hmanned
  · exact hworker.attends
  · cases howner <;> exact .of_queue rfl
  · exact .of_queue rfl

/-! ## Runs -/

/-- A service all of whose pumps could be started. -/
structure Staffed (s : System α) : Prop where
  reachable : Reachable s
  named : s.pumpNameFault? = none
  unrefused : s.denied = 0
  manned : Manned s
  /-- A delay queue that holds an entry has a consumer. -/
  served : s.queue.entries ≠ [] → s.queue.consumerActive = true

theorem Staffed.initial (host : Host) {name : String} (config : ServiceConfig)
    (clockEnd now : Instant) (hname : nameFault? (name ++ "-dispatcher") = none) :
    Staffed (System.initial host name config clockEnd now : System α) where
  reachable := .initial host name config clockEnd now
  named := hname
  unrefused := rfl
  manned := rfl
  served hne := absurd rfl hne

theorem Staffed.step_attends (hs : Staffed s) (ha : a.refusesPump = false)
    (hstep : s.step a = some s') : Staffed s' ∧ Attends s a s' := by
  obtain ⟨t, hmove, hcore⟩ := step_move hstep
  have hqueue : s'.queue = t.queue := congrArg (fun w => w.queue) hcore
  have hpump : s'.pump = t.pump := congrArg (fun w => w.pump) hcore
  have hcalls : s'.calls = t.calls := congrArg (fun w => w.calls) hcore
  have hpool : s'.pool = t.pool := congrArg (fun w => w.pool) hcore
  have hnone : t.denied = 0 := hmove.denied_eq_zero ha hs.unrefused
  have hshift := hmove.shift hs.reachable.lastStart hs.reachable.winding
  have hmanned := hs.manned.shift hshift hs.named hnone
  have hattends : Attends s a s' := by
    cases hmove.attends hs.manned with
    | assured hactive => exact .assured (hqueue ▸ hactive)
    | kept hnil hclosed hactive =>
      exact .kept (fun h => hqueue ▸ hnil h) (hqueue ▸ hclosed) (hqueue ▸ hactive)
    | idled hnil hopen => exact .idled (hqueue ▸ hnil) (hqueue ▸ hopen)
    | drained hnil hanswers =>
      refine .drained (hqueue ▸ hnil) ?_
      rw [answersClosed, hpump]
      exact hanswers
    | refused hpos => omega
  refine ⟨⟨hs.reachable.step a hstep, ?_, ?_, ?_, fun hne => ?_⟩, hattends⟩
  · exact (step_pumpNameFault? hstep).trans hs.named
  · rw [denied, owing, hcalls, hpool]
    exact hnone
  · rw [Manned, launchers, consumers, owing, hcalls, hpool, hpump, hqueue]
    exact hmanned
  · cases hattends with
    | assured hactive => exact hactive
    | kept hnil _ hactive =>
      rw [hactive]
      exact hs.served fun h => hne (hnil h)
    | idled hnil _ | drained hnil _ => exact absurd hnil hne
    | refused hpos =>
      rw [denied, owing, hcalls, hpool] at hpos
      exact absurd hnone (Nat.ne_of_gt hpos)

theorem Staffed.exec {actions : List (Action α)} (hs : Staffed s)
    (hactions : ∀ a ∈ actions, a.refusesPump = false) (hrun : s.exec actions = some t) :
    Staffed t :=
  exec_keeps (fun ha hs hstep => (hs.step_attends (hactions _ ha) hstep).1) hs hrun

/-- A delay queue that is closed has a consumer, as long as none has been told that it is
drained. -/
theorem Staffed.exec_closed {actions : List (Action α)} (h : Staffed s)
    (hactions : ∀ a ∈ actions, a.refusesPump = false)
    (hs : s.queue.closed = true → s.queue.consumerActive = true)
    (hrun : s.exec actions = some t) (hnot : s.occurrences answersClosed actions = 0) :
    t.queue.closed = true → t.queue.consumerActive = true := by
  induction actions generalizing s with
  | nil =>
    cases hrun
    exact hs
  | cons a rest ih =>
    obtain ⟨s', hstep, hrest⟩ := exec_cons hrun
    obtain ⟨hanswers, hnot'⟩ := occurrences_cons_eq_zero hstep hnot
    obtain ⟨hs', hattends⟩ := h.step_attends (hactions a List.mem_cons_self) hstep
    refine ih hs' (fun b hb => hactions b (List.mem_cons_of_mem _ hb)) (fun hclosed => ?_) hrest
      hnot'
    cases hattends with
    | assured hactive => exact hactive
    | kept _ hsame hactive =>
      rw [hactive]
      exact hs (hsame ▸ hclosed)
    | idled _ hopen =>
      rw [hopen] at hclosed
      cases hclosed
    | drained _ hdrained =>
      rw [hdrained] at hanswers
      cases hanswers
    | refused hpos => exact absurd hs'.unrefused (Nat.ne_of_gt hpos)

theorem Reachable.exec_queueDrained {actions : List (Action α)} (h : Reachable s)
    (hs : QueueDrained s) (hrun : s.exec actions = some t) : QueueDrained t := by
  have hkept : Reachable t ∧ QueueDrained t := by
    refine exec_keeps (P := fun s => Reachable s ∧ QueueDrained s) ?_ ⟨h, hs⟩ hrun
    rintro s s' a - ⟨h, hs⟩ hstep
    obtain ⟨t, hmove, hcore⟩ := step_move hstep
    exact ⟨h.step a hstep, (hmove.queueDrained h.consumer h.winding hs).congr
      (congrArg (fun w => w.queue) hcore) (congrArg (fun w => w.pump) hcore)⟩
  exact hkept.2

/-- Once the pump has been told that the delay queue is drained, it stays so. -/
theorem Reachable.exec_answered {actions : List (Action α)} (h : Reachable s)
    (hrun : s.exec actions = some t) (hanswered : 0 < s.occurrences answersClosed actions) :
    QueueDrained t := by
  induction actions generalizing s with
  | nil => cases hanswered
  | cons a rest ih =>
    obtain ⟨s', hstep, hrest⟩ := exec_cons hrun
    have hs' := h.step a hstep
    rw [occurrences_cons hstep] at hanswered
    cases hanswers : answersClosed s a s' with
    | false =>
      rw [hanswers, Bool.toNat_false, Nat.zero_add] at hanswered
      exact ih hs' hrest hanswered
    | true =>
      rw [answersClosed, Bool.and_eq_true] at hanswers
      have hlate : s'.Late := by
        refine .inl ?_
        rw [eq_of_beq hanswers.2]
        rfl
      exact hs'.exec_queueDrained (hs'.winding.late hlate) hrest

/-- A pump that is to be started finds that the one before it has ended. -/
theorem Reachable.launcher_not_blocked (h : Reachable s) (hlaunching : 0 < s.launchers) :
    s.pump = none := by
  have hsingle := h.consumer.single
  have hactive := h.consumer.active hlaunching
  cases hpump : s.pump with
  | none => rfl
  | some phase =>
    cases hphase : phase.isConsumer with
    | true =>
      have hone : s.consumers = 1 := by
        rw [consumers, hpump, Option.any_some, hphase, Bool.toNat_true]
      omega
    | false =>
      have hlate : s.Late := .inl (by rw [hpump, Option.any_some, hphase, Bool.not_false])
      rw [(h.winding.late hlate).consumerActive] at hactive
      cases hactive

/-- At every moment of every run of a service: there are never two of those who serve the delay
queue, which is either the pump before it has seen the queue idle or closed for good, or someone who
has to start it, and whom nothing keeps from doing so; and once the pump has been told that the
queue is drained, the queue knows of nobody. If the thread of the pump can have its name and none
has been refused: the delay queue knows of a consumer exactly if there is one, a queue that holds an
entry has its consumer, and so has one that is closed, until the pump has been told that it is
drained. -/
theorem delay_queue_has_one_pump (host : Host) (name : String) (config : ServiceConfig)
    (clockEnd now : Instant) {actions : List (Action α)}
    (hrun : (System.initial host name config clockEnd now).exec actions = some s) :
    let answered := (System.initial host name config clockEnd now).occurrences answersClosed actions
    s.launchers + s.consumers ≤ 1 ∧
      (0 < s.launchers → s.pump = none) ∧
      (0 < answered → s.queue.consumerActive = false ∧ s.launchers + s.consumers = 0) ∧
      (nameFault? (name ++ "-dispatcher") = none → (∀ a ∈ actions, a.refusesPump = false) →
        (s.queue.consumerActive = true ↔ s.launchers + s.consumers = 1) ∧
          (s.queue.entries ≠ [] → s.queue.consumerActive = true) ∧
          (s.queue.closed = true → (s.queue.consumerActive = true ↔ answered = 0))) := by
  intro answered
  have hstart : Reachable (System.initial host name config clockEnd now : System α) :=
    .initial host name config clockEnd now
  have hs := hstart.exec hrun
  refine ⟨hs.consumer.single, hs.launcher_not_blocked, fun hpos => ?_, fun hname hactions => ?_⟩
  · have hdrained := hstart.exec_answered hrun hpos
    have hnone := (hs.consumer.known hdrained.consumerActive).1
    rw [hnone, hdrained.consumers]
    exact ⟨hdrained.consumerActive, rfl⟩
  have hstaffed := Staffed.initial (α := α) host config clockEnd now hname
  have ht := hstaffed.exec hactions hrun
  refine ⟨?_, ht.served, fun hclosed => ⟨fun hactive => ?_, fun hnot => ?_⟩⟩
  · rw [ht.manned]
    cases s.queue.consumerActive <;> decide
  · refine Nat.eq_zero_of_not_pos fun hpos => ?_
    rw [(hstart.exec_answered hrun hpos).consumerActive] at hactive
    cases hactive
  · exact hstaffed.exec_closed hactions nofun hrun hnot hclosed

/-- A pump runs one record and ends. Another record is scheduled, and before its pump is started the
delay queue is closed. -/
def closedBeforeStart : List (Action Unit) :=
  [.setFactory { start := fun _ _ => .started "worker" },
    .begin (.schedule .zero), .call 0 0, .call 0 0, .call 0 0, .call 0 0,
    .pump 0, .pump 0, .pump 0, .pump 0, .pumpIdle,
    .begin (.schedule .zero), .call 1 0, .call 1 0,
    .begin .dispose, .call 2 0, .call 2 0]

/-- The call that is to start the pump is all that the closed delay queue has, and enough. -/
theorem closed_queue_waits_for_pump :
    ∃ s : System Unit, (System.initial .lenient "service" (.ofProcessors 1) 100 0).exec
        closedBeforeStart = some s ∧
      s.queue.closed = true ∧ s.queue.refs = [1] ∧ s.pump = none ∧ s.pumpStarts = 1 ∧
      s.queue.consumerActive = true ∧ s.launchers + s.consumers = 1 := by
  have hview : ((System.initial .lenient "service" (.ofProcessors 1) 100 0).exec
      closedBeforeStart).map (fun s => (s.queue.closed, s.queue.refs, s.pump, s.pumpStarts)) =
        some (true, [1], none, 1) := by decide +kernel
  obtain ⟨s, hrun, hs⟩ := Option.map_eq_some_iff.mp hview
  simp only [Prod.mk.injEq] at hs
  obtain ⟨hclosed, hrefs, hpump, hlaunches⟩ := hs
  obtain ⟨-, -, -, hstarts⟩ :=
    delay_queue_has_one_pump .lenient "service" (.ofProcessors 1) 100 0 hrun
  obtain ⟨hone, -, hanswered⟩ := hstarts (by decide +kernel)
    (by simp [closedBeforeStart, Action.refusesPump])
  have hactive := (hanswered hclosed).mpr (by decide +kernel)
  exact ⟨s, hrun, hclosed, hrefs, hpump, hlaunches, hactive, hone.mp hactive⟩

end TaskScheduler.System
