import TaskScheduler.Proofs.BatchRun
import TaskScheduler.Proofs.Toil

/-
  A batch has all its bodies run, or it cancels what it can.

  What a batch knows of its records (`Owns`) says what becomes of them. One that the batch has asked
  to be cancelled has never been run, or a worker is at its body, or the body has ended and has left
  its outcome (`Owns.fate_of_asked`); one the outcome of which was taken has left that of its body
  (`Pays.answers`). `batch_is_all_or_cancelled` puts this together with what a run shows of the
  batch (`Tracks`) and with the end that the work comes to (`Rests`).
-/
namespace TaskScheduler.System

variable {α : Type} {s s' t : System α} {r : Ref} {i n : Nat} {bodies : BodyLog α}
  {log : CallLog} {stage : Batch α}

/-! ## What becomes of a record -/

/-- The record has been cancelled, and its body has never been started. -/
structure NeverRan (t : System α) (bodies : BodyLog α) (r : Ref) : Prop where
  state : t.state? r = some .cancelled
  starts : bodies.starts r = 0
  results : bodies.results r = []

/-- A worker is at the body of the record, and starts it once. -/
structure RunsOn (t : System α) (bodies : BodyLog α) (r : Ref) : Prop where
  state : t.state? r = some .running
  worker : t.bodies r = 1
  starts : bodies.starts r + t.startsLeft r = 1
  results : bodies.results r = []

/-- The body of the record has been run once, and has left the record with its result, the outcome
of which is there until it is taken. -/
structure RanTo (t : System α) (bodies : BodyLog α) (taken : Bool) (r : Ref)
    (result : Except Failure α) : Prop where
  state : t.state? r = some (stateAfter result)
  starts : bodies.starts r = 1
  results : bodies.results r = [result]
  outcome : (t.record? r).bind (·.outcome) = if taken then none else some (outcomeAfter result)

/-- The outcome is that of the body of the record, which is terminal. -/
structure Answers (t : System α) (bodies : BodyLog α) (r : Ref) (outcome : Except TaskError α) :
    Prop where
  final : t.isFinal r = true
  genuine : outcome ≠ .error .outcomeTaken
  ran : ∃ result, RanTo t bodies true r result ∧ outcome = outcomeAfter result

theorem RanTo.isFinal {taken : Bool} {result : Except Failure α}
    (h : RanTo t bodies taken r result) : t.isFinal r = true := by
  rw [System.isFinal, h.state, Option.any_some]
  exact isFinal_stateAfter result

/-- What has become of a record of a batch. -/
theorem Owns.fate {asked taken : Bool} (h : Owns t i bodies asked taken r) (ht : Reachable t) :
    (asked = false ∧ taken = false ∧ t.state? r = some .pending) ∨
      (asked = true ∧ NeverRan t bodies r) ∨ RunsOn t bodies r ∨
      ∃ result, RanTo t bodies taken r result := by
  have hcourse := h.course
  generalize hstarts : bodies.starts r = starts at hcourse
  generalize hresults : bodies.results r = results at hcourse
  cases hcourse with
  | waits hx hstate _ => exact .inl ⟨rfl, rfl, (state?_of_record hx).trans (congrArg some hstate)⟩
  | runs _ hx hstate hcount =>
    have hstate' := (state?_of_record hx).trans (congrArg some hstate)
    have hworker := (ht.attended r).running hstate'
    exact .inr (.inr (.inl ⟨hstate', hworker, hstarts ▸ hcount, hresults⟩))
  | ended _ _ result hx hstate houtcome _ =>
    refine .inr (.inr (.inr ⟨result, ?_, hstarts, hresults, ?_⟩))
    · exact (state?_of_record hx).trans (congrArg some hstate)
    · rw [hx, Option.bind_some, houtcome]
  | cancelled hx hstate _ =>
    exact .inr (.inl ⟨rfl, (state?_of_record hx).trans (congrArg some hstate), hstarts, hresults⟩)

/-- What has become of a record that the batch has asked to be cancelled. -/
theorem Owns.fate_of_asked {taken : Bool} (h : Owns t i bodies true taken r) (ht : Reachable t) :
    NeverRan t bodies r ∨ RunsOn t bodies r ∨ ∃ result, RanTo t bodies taken r result := by
  rcases h.fate ht with ⟨hnot, -⟩ | ⟨-, hnever⟩ | hon
  · cases hnot
  · exact .inl hnever
  · exact .inr hon

/-- What has become of it at the end. -/
theorem Owns.fate_of_final {taken : Bool} (h : Owns t i bodies true taken r) (ht : Reachable t)
    (hfinal : t.isFinal r = true) :
    NeverRan t bodies r ∨ ∃ result, RanTo t bodies taken r result := by
  rcases h.fate_of_asked ht with hnever | hon | hran
  · exact .inl hnever
  · rw [System.isFinal, hon.state] at hfinal
    cases hfinal
  · exact .inr hran

/-- What a batch has taken as the outcome of a record is that of its body. -/
theorem Pays.answers {outcome : Except TaskError α} (h : Pays t i bodies r outcome)
    (ht : Reachable t) : Answers t bodies r outcome := by
  obtain ⟨howns, result, hresults, rfl⟩ := h
  rcases howns.fate ht with ⟨-, htaken, -⟩ | ⟨hasked, -⟩ | hon | ⟨result', hran⟩
  · cases htaken
  · cases hasked
  · rw [hon.results] at hresults
    cases hresults
  · rw [hran.results] at hresults
    cases hresults
    exact ⟨hran.isFinal, by cases result <;> nofun, result, hran, rfl⟩

/-! ## What becomes of a batch -/

/-- The records that a batch has had accepted are its own. -/
theorem Stands.owns (h : Stands t i n log bodies stage) :
    ∀ r ∈ log.admitted, ∃ asked taken, Owns t i bodies asked taken r := by
  have hpaid : ∀ {refs : List Ref} {outcomes : List (Except TaskError α)},
      List.Forall₂ (Pays t i bodies) refs outcomes → ∀ r ∈ refs, Owns t i bodies false true r :=
    fun hall => ((List.forall₂_and_left _ _).mp (hall.imp fun _ _ hr => hr)).1
  intro r hr
  cases h with
  | submitting _ _ _ _ hadmitted _ => exact ⟨_, _, hadmitted r hr⟩
  | cancelling _ hsplit hgone hcurrent hleft =>
    rw [hsplit] at hr
    rcases List.mem_append.mp hr with hr | hr
    · exact ⟨_, _, hgone r hr⟩
    · rcases List.mem_cons.mp hr with rfl | hr
      · exact ⟨_, _, hcurrent⟩
      · exact ⟨_, _, hleft r hr⟩
  | failed _ hadmitted => exact ⟨_, _, hadmitted r hr⟩
  | collecting _ hsplit houtcomes hleft =>
    rw [hsplit] at hr
    rcases List.mem_append.mp hr with hr | hr
    · exact ⟨_, _, hpaid houtcomes r hr⟩
    · exact ⟨_, _, hleft r hr⟩
  | finished _ houtcomes => exact ⟨_, _, hpaid houtcomes r hr⟩
  | aborted _ _ hadmitted => exact ⟨_, _, hadmitted r hr⟩

/-- A batch that has had all its bodies accepted ends with their outcomes. -/
theorem Stands.finished_of_all (h : Stands t i n log bodies stage) (ht : Reachable t)
    (hall : log.admitted.length = n) (hover : stage.isOver = true) :
    log.Full n ∧ ∃ outcomes, stage = .finished outcomes ∧
      List.Forall₂ (Answers t bodies) log.admitted outcomes := by
  cases h with
  | finished hfull houtcomes =>
    exact ⟨hfull, _, rfl, houtcomes.imp fun _ _ hpays => hpays.answers ht⟩
  | failed hfailed _ =>
    have hattempts := hfailed.attempts
    have hle := hfailed.attempts_le
    omega
  | aborted _ hlt _ => omega
  | _ => cases hover

/-- A submission that fails is the last one of its batch. -/
theorem Stands.failed_log {error : ServiceError} (h : Stands t i n log bodies stage)
    (herror : error ∈ log.refused) : log.Failed n error := by
  have hnone : log.refused ≠ [] := List.ne_nil_of_mem herror
  cases h with
  | cancelling hfailed | failed hfailed =>
    have hsame := hfailed.refused ▸ herror
    rw [List.mem_singleton.mp hsame]
    exact hfailed
  | submitting hrefused | aborted hrefused => exact absurd hrefused hnone
  | collecting hfull | finished hfull => exact absurd hfull.refused hnone

/-- A batch one submission of which has failed ends with that error. -/
theorem Stands.failed_of_refused {error : ServiceError} (h : Stands t i n log bodies stage)
    (herror : error ∈ log.refused) (hover : stage.isOver = true) :
    stage = .failed error ∧ ∀ r ∈ log.admitted, Owns t i bodies true false r := by
  have hnone : log.refused ≠ [] := List.ne_nil_of_mem herror
  cases h with
  | failed hfailed hadmitted =>
    have hsame := hfailed.refused ▸ herror
    exact ⟨congrArg _ (List.mem_singleton.mp hsame).symm, hadmitted⟩
  | finished hfull => exact absurd hfull.refused hnone
  | aborted hrefused => exact absurd hrefused hnone
  | _ => cases hover

/-- A batch that returns has had all its bodies accepted, or a submission of it has failed. -/
theorem Stands.all_or_refused (h : Stands t i n log bodies stage) (hover : stage.isOver = true)
    (hreturns : ∀ failure, stage ≠ .aborted failure) :
    log.admitted.length = n ∨ log.refused ≠ [] := by
  cases h with
  | finished hfull _ => exact .inl hfull.admitted
  | failed hfailed _ =>
    refine .inr fun hnil => ?_
    rw [hfailed.refused] at hnil
    cases hnil
  | @aborted failure => exact absurd rfl (hreturns failure)
  | _ => cases hover

/-- A batch at rest is over, and its records have come to their end. -/
theorem Tracks.at_rest (h : Tracks t i n log bodies) (ht : Reachable t) (hrests : t.Rests i)
    (hcall : t.calls[i]? = some (.batch stage)) :
    stage.isOver = true ∧ ∀ r ∈ log.admitted, t.isFinal r = true := by
  obtain ⟨stage', hcall', hstands⟩ := h.stands
  obtain rfl : stage' = stage := Call.batch.inj (Option.some.inj (hcall'.symm.trans hcall))
  have hfinal : ∀ r ∈ log.admitted, t.isFinal r = true := by
    intro r hr
    obtain ⟨_, _, howns⟩ := hstands.owns r hr
    exact hrests.isFinal ht howns.reserved.sheltered (h.accepted.subset hr)
  refine ⟨?_, hfinal⟩
  rcases hrests.batch ht hcall with hover | ⟨outcomes, r, left, rfl, hnot⟩
  · exact hover
  · cases hstands with
    | collecting _ hsplit _ _ =>
      have hr : r ∈ log.admitted := hsplit ▸ List.mem_append_right _ List.mem_cons_self
      rw [hfinal r hr] at hnot
      cases hnot

/-- A run of steps that serve the batch leads to rest. -/
theorem Reachable.exists_rest (hs : Reachable s) (hcall : s.calls[i]? = some (.batch stage)) :
    ∃ later t, (∀ a ∈ later, a.serves i = true) ∧ s.exec later = some t ∧ t.Rests i := by
  induction htoil : s.pool.toil + stage.toil using Nat.strongRecOn generalizing s stage with
  | ind toil ih =>
    by_cases hrests : s.Rests i
    · exact ⟨[], s, nofun, rfl, hrests⟩
    · obtain ⟨a, hserves, s', hstep⟩ :
          ∃ a : Action α, a.serves i = true ∧ ∃ s', s.step a = some s' := by
        by_contra hnone
        refine hrests fun a hserves => Option.eq_none_iff_forall_ne_some.mpr fun s' hstep => ?_
        exact hnone ⟨a, hserves, s', hstep⟩
      obtain ⟨stage', hcall', hlt⟩ := hs.serve_toil hcall hserves hstep
      obtain ⟨later, t, hlater, hrun, hrests'⟩ :=
        ih _ (htoil ▸ hlt) (hs.step a hstep) hcall' rfl
      refine ⟨a :: later, t, fun b hb => ?_, ?_, hrests'⟩
      · rcases List.mem_cons.mp hb with rfl | hb
        · exact hserves
        · exact hlater b hb
      · rw [System.exec, hstep]
        exact hrun

/-- What becomes of a batch of `n` bodies, the `i`-th call, that a run has come to a stage of. -/
structure AllOrCancelled (t : System α) (i n : Nat) (log : CallLog) (bodies : BodyLog α)
    (stage : Batch α) : Prop where
  /-- No record is accepted twice. -/
  distinct : log.admitted.Nodup
  /-- If all bodies have been accepted, the batch ends with one outcome for each of them, in the
  order of their submission: each body has been run once, and its outcome is the value or the panic
  that it has ended with. -/
  all : log.admitted.length = n → stage.isOver = true →
    log.Full n ∧ ∃ outcomes, stage = .finished outcomes ∧ outcomes.length = n ∧
      List.Forall₂ (Answers t bodies) log.admitted outcomes
  /-- If a submission has failed, it is the last one, and the batch ends with its error. Each record
  that was accepted before is then cancelled and its body never started, or a worker is at its body,
  or its body has been run once and its outcome is there. At rest, no worker is at a body. -/
  refused : ∀ error ∈ log.refused,
    log.Failed n error ∧ (stage.isOver = true → stage = .failed error ∧ ∀ r ∈ log.admitted,
      NeverRan t bodies r ∨ RunsOn t bodies r ∨ ∃ result, RanTo t bodies false r result) ∧
    (t.Rests i → ∀ r ∈ log.admitted,
      NeverRan t bodies r ∨ ∃ result, RanTo t bodies false r result)
  /-- A batch that returns has come to one or the other. -/
  either : stage.isOver = true → (∀ failure, stage ≠ .aborted failure) →
    log.admitted.length = n ∨ log.refused ≠ []
  /-- The workers and the batch have only so much to do. -/
  bounded : ∀ later u, (∀ a ∈ later, a.serves i = true) → t.exec later = some u →
    later.length ≤ t.pool.toil + stage.toil
  /-- When they rest, the batch is over and all its records are terminal. -/
  atRest : t.Rests i → stage.isOver = true ∧ ∀ r ∈ log.admitted, t.isFinal r = true
  /-- And they do come to rest. -/
  returns : ∃ later u stage', (∀ a ∈ later, a.serves i = true) ∧ t.exec later = some u ∧
    u.Rests i ∧ u.calls[i]? = some (.batch stage') ∧ stage'.isOver = true

/-- A batch of any number of bodies, begun in any state of a service, is all or cancelled: at every
moment of every run that follows, whatever the clients, the pump and the workers do, and whoever
disposes of the service. -/
theorem batch_is_all_or_cancelled (hs : Reachable s)
    (hbegin : s.step (.begin (.submitAll n)) = some s') {actions : List (Action α)}
    (hrun : s'.exec actions = some t) :
    ∃ stage, t.calls[s.calls.length]? = some (.batch stage) ∧
      AllOrCancelled t s.calls.length n (.ofRun s.calls.length s' actions) (.ofRun s' actions)
        stage := by
  have htracks := tracks_of_run hs hbegin hrun
  have ht := (hs.step _ hbegin).exec hrun
  obtain ⟨stage, hcall, hstands⟩ := htracks.stands
  have hrest := fun hrests => htracks.at_rest ht hrests hcall
  refine ⟨stage, hcall, ht.accepted_nodup.sublist htracks.accepted, fun hall hover => ?_,
    fun error herror => ?_, hstands.all_or_refused,
    fun later u hserves hlater => ht.serving_run_le hcall hserves hlater, hrest, ?_⟩
  · obtain ⟨hfull, outcomes, rfl, houtcomes⟩ := hstands.finished_of_all ht hall hover
    exact ⟨hfull, outcomes, rfl, houtcomes.length_eq.symm.trans hall, houtcomes⟩
  · refine ⟨hstands.failed_log herror, fun hover => ?_, fun hrests r hr => ?_⟩
    · obtain ⟨hfailed, howns⟩ := hstands.failed_of_refused herror hover
      exact ⟨hfailed, fun r hr => (howns r hr).fate_of_asked ht⟩
    · obtain ⟨hover, hfinal⟩ := hrest hrests
      obtain ⟨-, howns⟩ := hstands.failed_of_refused herror hover
      exact (howns r hr).fate_of_final ht (hfinal r hr)
  · obtain ⟨later, u, hserves, hlater, hrests⟩ := ht.exists_rest hcall
    have htracks' := tracks_of_run hs hbegin ((exec_append hrun).mpr hlater)
    obtain ⟨stage', hcall', -⟩ := htracks'.stands
    have hover := (htracks'.at_rest (ht.exec hlater) hrests hcall').1
    exact ⟨later, u, stage', hserves, hlater, hrests, hcall', hover⟩

/-- A batch of three is begun. A worker is at the body of the first record, and the second one
waits, when the service is disposed of, so that the third submission is turned away. -/
def turnedAwayBatch : List (Action Unit) :=
  [.call 0 0, .call 0 0, .call 0 0, .worker 0, .worker 0, .worker 0,
    .call 0 0, .call 0 0, .call 0 0, .begin .dispose, .call 1 0,
    .call 0 0, .call 0 0, .call 0 0, .call 0 0, .call 0 0, .call 0 0,
    .bodyEnds 0 (.ok ())]

/-- The batch fails, the first body ends with its own result, and the second is never started. -/
theorem batch_is_turned_away :
    ∃ s s' t : System Unit, Reachable s ∧ s.step (.begin (.submitAll 3)) = some s' ∧
      s'.exec turnedAwayBatch = some t ∧
      t.calls[0]? = some (.batch (.failed (.rejected "service" .shuttingDown))) ∧
      RanTo t (.ofRun s' turnedAwayBatch) false 0 (.ok ()) ∧
      NeverRan t (.ofRun s' turnedAwayBatch) 1 := by
  have hstart :
      Reachable (System.initial .lenient "service" (.ofProcessors 1) 100 0 : System Unit) :=
    .initial ..
  have hs : Reachable _ :=
    hstart.step (.setFactory { start := fun _ _ => .started "worker" }) rfl
  obtain ⟨stage, hcall, hfate⟩ :=
    @batch_is_all_or_cancelled _ _ _ _ 3 hs rfl turnedAwayBatch rfl
  obtain ⟨-, hover, -⟩ := hfate.refused (.rejected "service" .shuttingDown)
    (List.mem_singleton.mpr rfl)
  have hstage := Call.batch.inj (Option.some.inj hcall)
  subst hstage
  have hrecords : ∀ r ∈ [0, 1], _ := (hover rfl).2
  have hfirst := hrecords 0 List.mem_cons_self
  have hsecond := hrecords 1 (List.mem_cons_of_mem _ List.mem_cons_self)
  refine ⟨_, _, _, hs, rfl, rfl, rfl, ?_, ?_⟩
  · rcases hfirst with hnever | hon | ⟨result, hran⟩
    · have hstate : some RecordState.done = some .cancelled := hnever.state
      cases hstate
    · have hstate : some RecordState.done = some .running := hon.state
      cases hstate
    · have hresult : [Except.ok ()] = [result] := hran.results
      cases hresult
      exact hran
  · rcases hsecond with hnever | hon | ⟨result, hran⟩
    · exact hnever
    · have hstate : some RecordState.cancelled = some .running := hon.state
      cases hstate
    · have hstate : some RecordState.cancelled = some (stateAfter result) := hran.state
      cases result <;> cases hstate

end TaskScheduler.System
