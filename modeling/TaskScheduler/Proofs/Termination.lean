import TaskScheduler.Proofs.Custody
import TaskScheduler.Proofs.Shutdown

/-
  What a terminated service has left behind: nothing.

  `Reachable.nowhere`: no record is held anywhere once the service is terminated, so every accepted
  one is terminal. `terminated_service_is_empty`: the queues are empty, no worker is left, every
  record that a handle was given for is terminal, and all of this stays so.
-/
namespace TaskScheduler.System

variable {α : Type} {s t : System α} {a : Action α}

/-- Handles are given for accepted records only. -/
theorem CallMove.handles {duty duty' : Duty} (h : CallMove s duty t duty')
    (hs : ∀ r ∈ s.handles, r ∈ s.accepted) : ∀ r ∈ t.handles, r ∈ t.accepted := by
  cases h with
  | @counted r handles hhandles =>
    intro r' hr'
    refine List.mem_append.mpr ?_
    rcases hhandles with rfl | rfl
    · exact .inl (hs r' hr')
    · exact (List.mem_append.mp hr').imp (hs r') (fun h => h)
  | _ => exact hs

theorem Reachable.handles (h : Reachable s) : ∀ r ∈ s.handles, r ∈ s.accepted := by
  refine h.of_moves (P := fun s => ∀ r ∈ s.handles, r ∈ s.accepted) (fun _ => rfl) ?_ ?_
  · intro host name config clockEnd now
    exact nofun
  · intro s t a _ hs hmove
    rcases hmove.kinds with ⟨u, _, _, hcall, -, ht⟩ | hpump | hworker | howner | ⟨now, rfl⟩
    · rw [ht]
      exact hcall.handles hs
    · cases hpump <;> exact hs
    · cases hworker <;> exact hs
    · cases howner <;> exact hs
    · exact hs

/-- All workers of a terminated service have left. -/
theorem Reachable.tally_of_terminated (h : Reachable s) (hlife : s.lifecycle = .terminated)
    {f : WorkerPhase → Bool} (hf : f .exited = false) : s.pool.tally f = 0 := by
  obtain ⟨-, hlive, -⟩ := Pool.hasDrained_iff.mp (h.winding.ended (.inr hlife))
  refine Pool.tally_eq_zero_iff.mpr fun i phase hi => ?_
  rw [h.pool_coherent.exited hlive hi]
  exact hf

/-- Nobody holds a record in a terminated service. -/
theorem Reachable.nowhere (h : Reachable s) (hlife : s.lifecycle = .terminated) (r : Ref) :
    s.places r = 0 := by
  have hdrained := h.winding.late (.inr (.inr hlife))
  obtain ⟨-, -, hqueue⟩ := Pool.hasDrained_iff.mp (h.winding.ended (.inr hlife))
  have hholds : s.queue.holds r = 0 := by
    rw [DelayQueue.holds, hdrained.entries, List.countP_nil]
  have hpump : s.pumpHolds r = 0 := by
    have hzero := hdrained.consumers
    refine pumpHolds_of_none ?_ r
    cases hphase : s.pump with
    | none => rfl
    | some phase =>
      rw [consumers, hphase, Option.any_some] at hzero
      have hnone := Bool.toNat_eq_zero.mp hzero
      cases phase <;> first | rfl | cases hnone
  have hhands : s.pool.hands r = 0 := h.tally_of_terminated hlife rfl
  show s.queue.holds r + s.pumpHolds r + (s.pool.queue.count r + s.pool.hands r) = 0
  rw [hholds, hpump, hhands, hqueue]
  rfl

theorem Reachable.admitted_final (h : Reachable s) (hlife : s.lifecycle = .terminated) {r : Ref}
    (hr : s.Admitted r) : s.isFinal r = true := by
  rcases (h.held r).kept hr with hpos | hdoomed | hfinal
  · have := h.nowhere hlife r
    omega
  · have hnone : s.condemned r = 0 := h.tally_of_terminated hlife rfl
    omega
  · exact hfinal

theorem Reachable.accepted_final (h : Reachable s) (hlife : s.lifecycle = .terminated) {r : Ref}
    (hr : r ∈ s.accepted) : s.isFinal r = true := h.admitted_final hlife (.inl hr)

theorem exec_terminated {actions : List (Action α)} (hlife : s.lifecycle = .terminated)
    (hrun : s.exec actions = some t) : t.lifecycle = .terminated := by
  refine exec_keeps (P := fun s => s.lifecycle = .terminated) ?_ hlife hrun
  intro s s' a _ hlife hstep
  exact step_of_move (P := fun s => s.lifecycle = .terminated) (fun _ => rfl)
    (fun hmove => hmove.terminated hlife) hstep

/-- A terminated service, now and after any further actions: the delay queue is closed and empty,
the pool is closed with an empty run queue and without workers, and every record whose submission
was accepted, or that a handle was given for, is terminal. -/
theorem terminated_service_is_empty (h : Reachable s) (hlife : s.lifecycle = .terminated)
    {actions : List (Action α)} (hrun : s.exec actions = some t) :
    t.lifecycle = .terminated ∧
      t.queue.closed = true ∧ t.queue.entries = [] ∧
      t.pool.closing = true ∧ t.pool.queue = [] ∧ t.pool.live = 0 ∧
      (∀ i phase, t.pool.phase? i = some phase → phase = .exited) ∧
      ∀ r, r ∈ t.accepted ∨ r ∈ t.handles → t.isFinal r = true := by
  have ht := h.exec hrun
  have hlife' := exec_terminated hlife hrun
  obtain ⟨hclosed, hentries, -, -⟩ := ht.winding.late (.inr (.inr hlife'))
  obtain ⟨hclosing, hlive, hqueue⟩ := Pool.hasDrained_iff.mp (ht.winding.ended (.inr hlife'))
  refine ⟨hlife', hclosed, hentries, hclosing, hqueue, hlive, ?_, ?_⟩
  · intro i phase hi
    exact ht.pool_coherent.exited hlive hi
  · rintro r (hr | hr)
    · exact ht.accepted_final hlife' hr
    · exact ht.accepted_final hlife' (ht.handles r hr)

/-- One record is submitted and run by one worker, and then the service is disposed of. -/
def singleRun : List (Action Unit) :=
  [.setFactory { start := fun _ _ => .started "worker" },
    .begin .submit, .call 0 0, .call 0 0, .call 0 0,
    .worker 0, .worker 0, .worker 0, .bodyEnds 0 (.ok ()), .worker 0,
    .begin .dispose, .call 1 0, .call 1 0, .call 1 0,
    .pump 0, .pump 0, .worker 0, .pump 0, .pump 0]

/-- A submission that comes after the end of a service that has run one record changes nothing. -/
theorem late_submission_finds_service_empty :
    ∃ s t : System Unit, Reachable s ∧ s.lifecycle = .terminated ∧
      s.exec [.begin .submit, .call 2 0, .call 2 0] = some t ∧
      t.lifecycle = .terminated ∧ t.queue.entries = [] ∧ t.pool.live = 0 ∧
      t.handles = [0] ∧ t.isFinal 0 = true := by
  have hview : ((System.initial .lenient "service" (.ofProcessors 1) 100 0).exec singleRun).bind
      (fun s => (s.exec [.begin .submit, .call 2 0, .call 2 0]).map
        fun t => (s.lifecycle, t.handles)) = some (.terminated, [0]) := by decide +kernel
  obtain ⟨s, hrun, hview⟩ := Option.bind_eq_some_iff.mp hview
  obtain ⟨t, hexec, hview⟩ := Option.map_eq_some_iff.mp hview
  simp only [Prod.mk.injEq] at hview
  obtain ⟨hlife, hhandles⟩ := hview
  have hs : Reachable s := (Reachable.initial ..).exec hrun
  obtain ⟨hlife', -, hentries, -, -, hlive, -, hfinal⟩ :=
    terminated_service_is_empty hs hlife hexec
  have hdone := hfinal 0 (.inr (hhandles ▸ List.mem_singleton_self 0))
  exact ⟨s, t, hs, hlife, hexec, hlife', hentries, hlive, hhandles, hdone⟩

end TaskScheduler.System
