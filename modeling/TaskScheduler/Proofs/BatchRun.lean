import Mathlib.Data.List.Forall2
import TaskScheduler.Proofs.Course
import TaskScheduler.Proofs.Trace

/-
  The history of a batch.

  A run shows which records a call has had accepted, how many submissions it has begun, and with
  which error one has failed (`admissions`, `attempts`, `refusals`). `Stands` says, next to this
  log, how far a batch of `n` bodies has come, with one constructor for each stage and what has
  become of its records there. `Tracks.step`: every step keeps a batch and its log in accordance,
  and so does every run (`tracks_of_run`).
-/
namespace TaskScheduler

/-- The cancellation of the record has been asked for. -/
def Withdrawal.hasAsked : Withdrawal → Bool
  | asking .. => false
  | _ => true

/-- A batch that is cancelling its records handles the one that it is at, and only to ask. -/
theorem Call.handling_cancelling {α : Type} {error : ServiceError} {current : Withdrawal}
    {left : List Ref} {r : Ref}
    (h : (Call.batch (.cancelling error current left : Batch α)).handling? = some r) :
    r = current.record ∧ current.hasAsked = false := by
  cases current <;> cases h
  exact ⟨rfl, rfl⟩

namespace System

variable {α : Type} {s s' t u : System α} {a : Action α} {r : Ref} {i choice n : Nat}
  {stage stage' : Batch α}

/-! ## What a run shows of a call -/

/-- The record that a call makes at a step. -/
def makings (i : Nat) (s : System α) (a : Action α) (t : System α) : List Ref :=
  if a.goesOn i then (List.range t.records.length).drop s.records.length else []

/-- The record that a call has had accepted at a step. -/
def admissions (i : Nat) (s : System α) (a : Action α) (t : System α) : List Ref :=
  if a.goesOn i then t.accepted.drop s.accepted.length else []

/-- The error that the next section of a submission fails with. -/
def failure? (s : System α) (choice : Nat) (stage : Submission) : Option ServiceError :=
  match s.submissionStep choice stage with
  | some (_, .failed _ error) => some error
  | _ => none

/-- The error that the submission of a call fails with at a step. -/
def refusals (i : Nat) (s : System α) (a : Action α) (_ : System α) : List ServiceError :=
  match a with
  | .call j choice =>
    if j = i then (((s.calls[i]?).bind (·.submission?)).bind (s.failure? choice)).toList else []
  | _ => []

/-- A call begins to submit a body. -/
def attempts (i : Nat) (s : System α) (a : Action α) (_ : System α) : Bool :=
  a.goesOn i && (s.calls[i]?).bind (·.submission?) == some .arriving

/-- What a run has shown of a call. -/
structure CallLog where
  attempts : Nat
  made : List Ref
  admitted : List Ref
  refused : List ServiceError

/-- What a run has shown of the bodies of records. -/
structure BodyLog (α : Type) where
  starts : Ref → Nat
  results : Ref → List (Except Failure α)

/-- The log of a call after one more step. -/
def CallLog.next (log : CallLog) (i : Nat) (s : System α) (a : Action α) (t : System α) :
    CallLog where
  attempts := log.attempts + (System.attempts i s a t).toNat
  made := log.made ++ makings i s a t
  admitted := log.admitted ++ admissions i s a t
  refused := log.refused ++ refusals i s a t

/-- The log of the bodies after one more step. -/
def BodyLog.next (bodies : BodyLog α) (s : System α) (a : Action α) (t : System α) :
    BodyLog α where
  starts r := bodies.starts r + (startsBody r s a t).toNat
  results r := bodies.results r ++ bodyResults r s a t

/-- No body starts or ends at a section of a call. -/
theorem BodyLog.next_call (bodies : BodyLog α) (s t : System α) (i choice : Nat) :
    bodies.next s (.call i choice) t = bodies := by
  have hresults : ∀ r, bodies.results r ++ bodyResults r s (.call i choice) t = bodies.results r :=
    fun r => List.append_nil _
  rw [next, funext hresults]
  rfl

/-! ## How a batch stands -/

variable {log : CallLog} {bodies : BodyLog α}

/-- The record is one of the batch, and has come as far as the log shows. -/
structure Owns (s : System α) (i : Nat) (bodies : BodyLog α) (asked taken : Bool) (r : Ref) :
    Prop where
  reserved : Reserved s i r
  course : Course s r asked taken (bodies.starts r) (bodies.results r)

/-- The batch has taken the outcome of the record, which is that of its body. -/
def Pays (s : System α) (i : Nat) (bodies : BodyLog α) (r : Ref)
    (outcome : Except TaskError α) : Prop :=
  Owns s i bodies false true r ∧
    ∃ result, bodies.results r = [result] ∧ outcome = outcomeAfter result

/-- All `n` bodies of a call have been accepted. -/
structure CallLog.Full (log : CallLog) (n : Nat) : Prop where
  attempts : log.attempts = n
  made : log.made = log.admitted
  admitted : log.admitted.length = n
  refused : log.refused = []

/-- The last one of the submissions that a call of `n` bodies has begun has failed, and those before
it have been accepted. -/
structure CallLog.Failed (log : CallLog) (n : Nat) (error : ServiceError) : Prop where
  attempts : log.attempts = log.admitted.length + 1
  attempts_le : log.attempts ≤ n
  made : log.admitted <+: log.made
  made_le : log.made.length ≤ log.attempts
  refused : log.refused = [error]

/-- How far a batch of `n` bodies has come, and its records. -/
inductive Stands (s : System α) (i n : Nat) (log : CallLog) (bodies : BodyLog α) :
    Batch α → Prop where
  | submitting {current : Submission} {left : Nat} : log.refused = [] →
      log.attempts = log.admitted.length + (current != .arriving).toNat →
      log.made = log.admitted ++ current.record?.toList → log.admitted.length + left + 1 = n →
      (∀ r ∈ log.admitted, Owns s i bodies false false r) →
      (∀ r, current.duty.submits r = true → Owns s i bodies false false r) →
      Stands s i n log bodies (.submitting log.admitted current left)
  | cancelling {error : ServiceError} {current : Withdrawal} {gone left : List Ref} :
      log.Failed n error → log.admitted = gone ++ current.record :: left →
      (∀ r ∈ gone, Owns s i bodies true false r) →
      Owns s i bodies current.hasAsked false current.record →
      (∀ r ∈ left, Owns s i bodies false false r) →
      Stands s i n log bodies (.cancelling error current left)
  | failed {error : ServiceError} : log.Failed n error →
      (∀ r ∈ log.admitted, Owns s i bodies true false r) → Stands s i n log bodies (.failed error)
  | collecting {outcomes : List (Except TaskError α)} {gone left : List Ref} : log.Full n →
      log.admitted = gone ++ left → List.Forall₂ (Pays s i bodies) gone outcomes →
      (∀ r ∈ left, Owns s i bodies false false r) →
      Stands s i n log bodies (.collecting outcomes left)
  | finished {outcomes : List (Except TaskError α)} : log.Full n →
      List.Forall₂ (Pays s i bodies) log.admitted outcomes →
      Stands s i n log bodies (.finished outcomes)
  | aborted {failure : Failure} : log.refused = [] → log.admitted.length < n →
      (∀ r ∈ log.admitted, Owns s i bodies false false r) →
      Stands s i n log bodies (.aborted failure)

theorem Stands.mono {bodies' : BodyLog α} (h : Stands s i n log bodies stage)
    (howns : ∀ {asked taken : Bool} {r : Ref}, Owns s i bodies asked taken r →
      Owns s' i bodies' asked taken r)
    (hpays : ∀ {r : Ref}, Owns s i bodies false true r → bodies'.results r = bodies.results r) :
    Stands s' i n log bodies' stage := by
  have hpaid : ∀ {refs : List Ref} {outcomes : List (Except TaskError α)},
      List.Forall₂ (Pays s i bodies) refs outcomes →
      List.Forall₂ (Pays s' i bodies') refs outcomes := by
    intro refs outcomes hall
    refine hall.imp fun r outcome hpays' => ?_
    obtain ⟨hr, result, hresult, houtcome⟩ := hpays'
    exact ⟨howns hr, result, (hpays hr).trans hresult, houtcome⟩
  cases h with
  | submitting hrefused hattempts hmade hlength hadmitted hcurrent =>
    exact .submitting hrefused hattempts hmade hlength (fun r hr => howns (hadmitted r hr))
      fun r hr => howns (hcurrent r hr)
  | cancelling hfailed hsplit hgone hcurrent hleft =>
    exact .cancelling hfailed hsplit (fun r hr => howns (hgone r hr)) (howns hcurrent)
      fun r hr => howns (hleft r hr)
  | failed hfailed hadmitted => exact .failed hfailed fun r hr => howns (hadmitted r hr)
  | collecting hfull hsplit houtcomes hleft =>
    exact .collecting hfull hsplit (hpaid houtcomes) fun r hr => howns (hleft r hr)
  | finished hfull houtcomes => exact .finished hfull (hpaid houtcomes)
  | aborted hrefused hlength hadmitted =>
    exact .aborted hrefused hlength fun r hr => howns (hadmitted r hr)

/-- A batch and its log are in accordance. -/
structure Tracks (s : System α) (i n : Nat) (log : CallLog) (bodies : BodyLog α) : Prop where
  stands : ∃ stage, s.calls[i]? = some (.batch stage) ∧ Stands s i n log bodies stage
  accepted : log.admitted.Sublist s.accepted
  unmade : ∀ r, s.record? r = none → bodies.starts r = 0 ∧ bodies.results r = []

/-! ## Steps of others -/

theorem step_accepted_grows (hstep : s.step a = some s') : s.accepted <+: s'.accepted := by
  refine step_of_move (P := fun s' => s.accepted <+: s'.accepted) (fun _ => rfl) ?_ hstep
  intro t hmove
  rcases hmove.kinds with ⟨u, _, _, hcall, -, ht⟩ | hpump | hworker | howner | ⟨now, rfl⟩
  · rw [ht]
    cases hcall with
    | counted _ => exact List.prefix_append _ _
    | _ => exact List.prefix_refl _
  · cases hpump <;> exact List.prefix_refl _
  · cases hworker <;> exact List.prefix_refl _
  · cases howner <;> exact List.prefix_refl _
  · exact List.prefix_refl _

theorem Owns.step {asked taken : Bool} (h : Owns s i bodies asked taken r) (hs : Reachable s)
    (hstep : s.step a = some s') (hother : ∀ choice, a ≠ .call i choice) :
    Owns s' i (bodies.next s a s') asked taken r where
  reserved := h.reserved.step_other hs hstep hother
  course := h.course.step hs h.reserved hstep hother (h.reserved.step_other hs hstep hother).once

theorem CallLog.next_other (log : CallLog) (hother : ∀ choice, a ≠ .call i choice) :
    log.next i s a s' = log := by
  have hnone : a.goesOn i = false ∧ refusals i s a s' = [] := by
    cases a with
    | call j choice =>
      have hne : j ≠ i := by
        rintro rfl
        exact hother choice rfl
      exact ⟨beq_false_of_ne hne, if_neg hne⟩
    | _ => exact ⟨rfl, rfl⟩
  rw [next, admissions, makings, System.attempts, hnone.1, hnone.2]
  simp

/-- Records that are not there have not been run. -/
theorem Tracks.step_unmade (h : Tracks s i n log bodies) (hs : Reachable s)
    (hstep : s.step a = some s') (r : Ref) (hnew : s'.record? r = none) :
    (bodies.next s a s').starts r = 0 ∧ (bodies.next s a s').results r = [] := by
  have hnone : s.record? r = none := by
    cases hx : s.record? r with
    | none => rfl
    | some x =>
      obtain ⟨y, hy, -⟩ := step_record hstep hx
      rw [hnew] at hy
      cases hy
  have hbodies := (hs.attended r).absent (by rw [state?, hnone, Option.map_none])
  obtain ⟨hstarts, hresults⟩ := h.unmade r hnone
  constructor
  · show bodies.starts r + (startsBody r s a s').toNat = 0
    rw [hstarts, startsBody_of_bodies hbodies]
    rfl
  · show bodies.results r ++ bodyResults r s a s' = []
    rw [hresults, bodyResults_of_bodies hbodies]
    rfl

theorem Tracks.step_other (h : Tracks s i n log bodies) (hs : Reachable s)
    (hstep : s.step a = some s') (hother : ∀ choice, a ≠ .call i choice)
    (hcalls : s'.calls[i]? = s.calls[i]?) :
    Tracks s' i n (log.next i s a s') (bodies.next s a s') := by
  obtain ⟨stage, hcall, hstands⟩ := h.stands
  rw [log.next_other hother]
  refine ⟨⟨stage, hcalls.trans hcall, hstands.mono (fun hr => hr.step hs hstep hother) ?_⟩, ?_,
    h.step_unmade hs hstep⟩
  · intro r hr
    show bodies.results r ++ bodyResults r s a s' = bodies.results r
    rw [bodyResults_of_bodies hr.course.bodies_of_taken, List.append_nil]
  · exact h.accepted.trans (step_accepted_grows hstep).sublist

/-! ## Sections of the batch -/

theorem CallLog.next_own (log : CallLog) (hcall : s.calls[i]? = some (.batch stage)) :
    log.next i s (.call i choice) s' =
      { attempts := log.attempts + ((Call.batch stage).submission? == some .arriving).toNat
        made := log.made ++ (List.range s'.records.length).drop s.records.length
        admitted := log.admitted ++ s'.accepted.drop s.accepted.length
        refused := log.refused ++
          ((Call.batch stage).submission?.bind (s.failure? choice)).toList } := by
  rw [next, makings, admissions, System.attempts, refusals, hcall]
  simp [Action.goesOn]

theorem Reachable.arriving_of_accepted (hs : Reachable s) (hr : r ∈ s.accepted) :
    s.arriving r = 0 := by
  have honce := hs.submitted_once r
  have hcount : 0 < s.accepted.count r := List.count_pos_iff.mpr hr
  rw [submissions, owing_submits] at honce
  omega

theorem Owns.kept {asked taken : Bool} (h : Owns s i bodies asked taken r) (hs : Reachable s)
    (hstep : s.step (.call i choice) = some s') (hsame : s'.record? r = s.record? r)
    (hpanic : r ∈ s.accepted ∨ ∀ failure, s'.calls[i]? ≠ some (.batch (.aborted failure))) :
    Owns s' i bodies asked taken r := by
  have hreserved : Reserved s' i r := by
    refine h.reserved.step hs hstep fun hpos => ?_
    rcases hpanic with haccepted | hnot
    · rw [hs.arriving_of_accepted haccepted] at hpos
      cases hpos
    · exact hnot
  exact ⟨hreserved, h.course.kept hs hstep hreserved.once hsame⟩

theorem Stands.afterFailed {error : ServiceError} {gone left : List Ref}
    (hfailed : log.Failed n error) (hsplit : log.admitted = gone ++ left)
    (hgone : ∀ r ∈ gone, Owns s i bodies true false r)
    (hleft : ∀ r ∈ left, Owns s i bodies false false r) :
    Stands s i n log bodies (.afterFailed error left) := by
  cases left with
  | nil =>
    rw [List.append_nil] at hsplit
    exact .failed hfailed (hsplit ▸ hgone)
  | cons r rest =>
    exact .cancelling hfailed hsplit hgone (hleft r List.mem_cons_self)
      fun r' hr => hleft r' (List.mem_cons_of_mem _ hr)

theorem Stands.afterAccepted {left : Nat} (hrefused : log.refused = [])
    (hattempts : log.attempts = log.admitted.length) (hmade : log.made = log.admitted)
    (hlength : log.admitted.length + left = n)
    (hadmitted : ∀ r ∈ log.admitted, Owns s i bodies false false r) :
    Stands s i n log bodies (.afterAccepted log.admitted left) := by
  cases left with
  | zero =>
    exact .collecting ⟨hattempts.trans hlength, hmade, hlength, hrefused⟩ (List.nil_append _).symm
      .nil hadmitted
  | succ left =>
    exact .submitting hrefused hattempts (hmade.trans (List.append_nil _).symm) hlength hadmitted
      nofun

/-- The `i`-th call, a batch, carries out a section. -/
structure BatchStep (s : System α) (i choice : Nat) (stage : Batch α) (u s' : System α)
    (stage' : Batch α) : Prop where
  reachable : Reachable s
  step : s.step (.call i choice) = some s'
  before : s.calls[i]? = some (.batch stage)
  after : s'.calls[i]? = some (.batch stage')
  move : BatchMove s choice stage u stage'
  result : s' = { u with calls := s.calls.set i (.batch stage') }

theorem BatchStep.kept {asked taken : Bool} (h : BatchStep s i choice stage u s' stage')
    (hr : Owns s i bodies asked taken r) (hnot : (Call.batch stage).handling? ≠ some r)
    (hpanic : r ∈ s.accepted ∨ ∀ failure, stage' ≠ .aborted failure) :
    Owns s' i bodies asked taken r := by
  have hsame := step_record_of_call h.step h.before hr.reserved.made hnot
  refine hr.kept h.reachable h.step hsame (hpanic.imp_right fun hnever failure heq => ?_)
  rw [h.after] at heq
  exact hnever failure (Call.batch.inj (Option.some.inj heq))

theorem BatchStep.next_log (h : BatchStep s i choice stage u s' stage') (log : CallLog) :
    log.next i s (.call i choice) s' =
      { attempts := log.attempts + ((Call.batch stage).submission? == some .arriving).toNat
        made := log.made ++ (List.range u.records.length).drop s.records.length
        admitted := log.admitted ++ u.accepted.drop s.accepted.length
        refused := log.refused ++
          ((Call.batch stage).submission?.bind (s.failure? choice)).toList } := by
  rw [log.next_own h.before, h.result]

/-- A section that makes no record and has none accepted, and at which no submission fails. -/
theorem BatchStep.next_quiet (h : BatchStep s i choice stage u s' stage') (log : CallLog)
    (tries : Nat) (hmade : u.records.length = s.records.length)
    (haccepted : u.accepted = s.accepted)
    (htries : ((Call.batch stage).submission? == some .arriving).toNat = tries)
    (hfailure : (Call.batch stage).submission?.bind (s.failure? choice) = none) :
    log.next i s (.call i choice) s' = { log with attempts := log.attempts + tries } := by
  rw [h.next_log, hmade, haccepted, htries, hfailure]
  simp

/-- A section at which a submission of the batch fails. -/
theorem BatchStep.next_refused {error : ServiceError} (h : BatchStep s i choice stage u s' stage')
    (log : CallLog) (hmade : u.records.length = s.records.length)
    (haccepted : u.accepted = s.accepted)
    (htries : (Call.batch stage).submission? ≠ some .arriving)
    (hfailure : (Call.batch stage).submission?.bind (s.failure? choice) = some error) :
    log.next i s (.call i choice) s' = { log with refused := log.refused ++ [error] } := by
  rw [h.next_log, hmade, haccepted, beq_false_of_ne htries, hfailure]
  simp

theorem failure?_arriving (s : System α) (choice : Nat) : s.failure? choice .arriving = none := by
  rw [failure?, submissionStep]
  cases s.lifecycle.acceptsWork <;> rfl

/-- A submission for work that is to start at once fails if the pool can start no worker. -/
theorem failure?_executing {answer : Pool.Answer Unit} :
    (s.pool.execute r choice).answer = answer →
      s.failure? choice (.executing r) =
        match answer with
        | .error (.spawn reason) => some (.threadSpawn .worker reason)
        | _ => none := by
  intro hanswer
  unfold failure? submissionStep execute
  simp only
  rw [hanswer]
  rcases answer with value | (_ | reason) | failure <;> rfl

/-- A section at which the batch makes a record. -/
theorem BatchStep.next_created {accepted : List Ref} {left : Nat}
    (h : BatchStep s i choice (.submitting accepted .arriving left) (s.create .once s.now).1 s'
      stage') (log : CallLog) :
    log.next i s (.call i choice) s' =
      { log with attempts := log.attempts + 1, made := log.made ++ [s.records.length] } := by
  have hlength : (s.create .once s.now).1.records.length = s.records.length + 1 :=
    List.length_append
  have hnew : (List.range (s.records.length + 1)).drop s.records.length = [s.records.length] := by
    rw [List.range_succ]
    exact List.drop_left' List.length_range
  have haccepted : (s.create .once s.now).1.accepted = s.accepted := rfl
  have hfailure : (Call.batch (.submitting accepted .arriving left : Batch α)).submission?.bind
      (s.failure? choice) = none := s.failure?_arriving choice
  rw [h.next_log, hlength, hnew, haccepted, hfailure]
  simp [Call.submission?]

/-- A section at which the batch has a record accepted. -/
theorem BatchStep.next_counted {accepted : List Ref} {left : Nat}
    (h : BatchStep s i choice (.submitting accepted (.counting r .immediate) left) u s' stage')
    (log : CallLog) (hmade : u.records.length = s.records.length)
    (haccepted : u.accepted = s.accepted ++ [r]) :
    log.next i s (.call i choice) s' = { log with admitted := log.admitted ++ [r] } := by
  have hfailure : (Call.batch (.submitting accepted (.counting r .immediate) left : Batch α)
      ).submission?.bind (s.failure? choice) = none := rfl
  rw [h.next_log, hmade, haccepted, hfailure]
  simp [Call.submission?]

/-- The record that the batch has just made is its own. -/
theorem BatchStep.owns_created {accepted : List Ref} {left : Nat}
    (h : BatchStep s i choice (.submitting accepted .arriving left) (s.create .once s.now).1 s'
      (.submitting accepted (.executing s.records.length) left))
    (hunmade : ∀ r, s.record? r = none → bodies.starts r = 0 ∧ bodies.results r = []) :
    Owns s' i bodies false false s.records.length := by
  have hx : s'.record? s.records.length =
      some { id := s.nextId, recurrence := .once, trigger := s.now } := by
    rw [h.result]
    exact List.getElem?_concat_length
  have hcourse := Course.of_created h.reachable h.step hx rfl
  obtain ⟨hstarts, hresults⟩ := hunmade _ (List.getElem?_eq_none (Nat.le_refl _))
  rw [← hstarts, ← hresults] at hcourse
  exact ⟨Reserved.of_created h.reachable h.before h.result, hcourse⟩

/-- A failure ends the submissions, and the records accepted before are all there is to cancel. -/
theorem Stands.of_failure {error : ServiceError} {current : Submission}
    (hrefused : log.refused = []) (hattempts : log.attempts = log.admitted.length + 1)
    (hlt : log.admitted.length < n) (hmade : log.made = log.admitted ++ current.record?.toList)
    (hadmitted : ∀ r ∈ log.admitted, Owns s i bodies false false r) :
    Stands s i n { log with refused := log.refused ++ [error] } bodies
      (.afterFailed error log.admitted) := by
  have hfew : log.made.length ≤ log.attempts := by
    rw [hmade, List.length_append, hattempts]
    exact Nat.add_le_add_left current.record?.length_toList_le _
  rw [hrefused]
  exact .afterFailed ⟨hattempts, hattempts ▸ hlt, hmade ▸ List.prefix_append _ _, hfew, rfl⟩
    (List.nil_append _).symm nofun hadmitted

/-- A batch goes on with its submissions. -/
theorem Stands.next_submitting {current : Submission} {left : Nat}
    (h : Stands s i n log bodies (.submitting log.admitted current left))
    (hstep : BatchStep s i choice (.submitting log.admitted current left) u s' stage')
    (haccepted : ∀ r ∈ log.admitted, r ∈ s.accepted)
    (hunmade : ∀ r, s.record? r = none → bodies.starts r = 0 ∧ bodies.results r = []) :
    Stands s' i n (log.next i s (.call i choice) s') bodies stage' := by
  have hmove := hstep.move
  cases h with
  | submitting hrefused hattempts hmade hlength hadmitted hcurrent =>
    have hlt : log.admitted.length < n := by omega
    have hkept : ∀ {r : Ref}, Owns s i bodies false false r →
        (r ∈ s.accepted ∨ ∀ failure, stage' ≠ .aborted failure) →
        Owns s' i bodies false false r := fun hr hpanic => hstep.kept hr nofun hpanic
    have hadmitted' : ∀ r ∈ log.admitted, Owns s' i bodies false false r :=
      fun r hr => hkept (hadmitted r hr) (.inl (haccepted r hr))
    have hbegun : current ≠ .arriving → log.attempts = log.admitted.length + 1 := by
      intro hnot
      rw [hattempts, bne_iff_ne.mpr hnot]
      rfl
    cases hmove with
    | created =>
      have hmade' : log.made ++ [s.records.length] = log.admitted ++ [s.records.length] := by
        rw [hmade]
        exact congrArg (· ++ _) (List.append_nil _)
      rw [hstep.next_created log]
      refine .submitting hrefused (congrArg (· + 1) hattempts) hmade' hlength hadmitted'
        fun r hr => ?_
      obtain rfl : s.records.length = r := eq_of_beq hr
      exact hstep.owns_created hunmade
    | turnedAway =>
      rw [hstep.next_quiet log 1 rfl rfl rfl (s.failure?_arriving choice)]
      exact .submitting hrefused (congrArg (· + 1) hattempts) hmade hlength hadmitted' nofun
    | entered hanswer =>
      rw [hstep.next_quiet log 0 rfl rfl rfl (failure?_executing hanswer)]
      exact .submitting hrefused hattempts hmade hlength hadmitted' fun r hr =>
        hkept (hcurrent r hr) (.inr nofun)
    | closed hanswer =>
      rw [hstep.next_quiet log 0 rfl rfl rfl (failure?_executing hanswer)]
      exact .submitting hrefused hattempts hmade hlength hadmitted' nofun
    | refused hanswer =>
      rw [hstep.next_refused log rfl rfl nofun (failure?_executing hanswer)]
      exact .of_failure hrefused (hbegun nofun) hlt hmade hadmitted'
    | unwound hanswer =>
      rw [hstep.next_quiet log 0 rfl rfl rfl (failure?_executing hanswer)]
      exact .aborted hrefused hlt hadmitted'
    | @counted _ r _ =>
      have hlength' : (log.admitted ++ [r]).length = log.admitted.length + 1 :=
        List.length_append
      have hleft : (log.admitted ++ [r]).length + left = n := by omega
      rw [hstep.next_counted log rfl rfl]
      refine .afterAccepted hrefused ((hbegun nofun).trans hlength'.symm) hmade hleft
        fun r' hr => ?_
      rcases List.mem_append.mp hr with hold | hnew
      · exact hadmitted' r' hold
      · obtain rfl := List.mem_singleton.mp hnew
        refine hkept (hcurrent r' (beq_self_eq_true _)) (.inr ?_)
        cases left <;> nofun
    | explained =>
      rw [hstep.next_refused log rfl rfl nofun rfl]
      exact .of_failure hrefused (hbegun nofun) hlt hmade hadmitted'

theorem BatchStep.reserved (h : BatchStep s i choice stage u s' stage') (hr : Reserved s i r)
    (haccepted : r ∈ s.accepted) : Reserved s' i r := by
  refine hr.step h.reachable h.step fun hpos => ?_
  rw [h.reachable.arriving_of_accepted haccepted] at hpos
  cases hpos

/-- The batch asks for the cancellation of one of its records. -/
theorem BatchStep.asked (h : BatchStep s i choice stage (s.cancelRecord r false).1 s' stage')
    (hr : Owns s i bodies false false r) (haccepted : r ∈ s.accepted) :
    Owns s' i bodies true false r := by
  have hrecord : s'.record? r = (s.record? r).map fun x => (x.cancel false).1 := by
    have hcore := congrArg (fun w => w.records) (s.cancelRecord_core r false)
    have hrecords : s'.records = s.records.modify r fun x => (x.cancel false).1 := by
      rw [h.result]
      exact hcore
    rw [record?_of_modify hrecords, if_pos rfl]
  have hreserved := h.reserved hr.reserved haccepted
  exact ⟨hreserved, hr.course.ask h.reachable h.step hreserved.once hrecord⟩

/-- The batch takes the outcome of one of its records. -/
theorem BatchStep.collected (h : BatchStep s i choice stage (s.takeAnswer r).1 s' stage')
    (hr : Owns s i bodies false false r) (haccepted : r ∈ s.accepted)
    (hfinal : s.isFinal r = true) : Pays s' i bodies r (s.takeAnswer r).2 := by
  have hrecord : s'.record? r = (s.record? r).map (·.collectOutcome.1) := by
    have hrecords : s'.records = s.records.modify r (·.collectOutcome.1) := by
      rw [h.result]
      rfl
    rw [record?_of_modify hrecords, if_pos rfl]
  obtain ⟨result, houtcome, -, hresults, hcourse⟩ := hr.course.collect h.step hfinal hrecord
  exact ⟨⟨h.reserved hr.reserved haccepted, hcourse⟩, result, hresults, houtcome⟩

/-- A batch that has failed goes on with its cancellations. -/
theorem Stands.next_cancelling {error : ServiceError} {current : Withdrawal} {left : List Ref}
    (h : Stands s i n log bodies (.cancelling error current left))
    (hstep : BatchStep s i choice (.cancelling error current left) u s' stage')
    (haccepted : ∀ r ∈ log.admitted, r ∈ s.accepted) (hnodup : log.admitted.Nodup) :
    Stands s' i n (log.next i s (.call i choice) s') bodies stage' := by
  have hmove := hstep.move
  have hquiet : u.records.length = s.records.length → u.accepted = s.accepted →
      log.next i s (.call i choice) s' = log := fun hmade hsame =>
    hstep.next_quiet log 0 hmade hsame rfl rfl
  cases h with
  | @cancelling _ _ gone _ hfailed hsplit hgone hcurrent hleft =>
    rw [hsplit] at haccepted hnodup
    have hfresh : current.record ∉ gone ++ left :=
      (List.nodup_cons.mp (List.nodup_middle.mp hnodup)).1
    have hmem : current.record ∈ s.accepted :=
      haccepted _ (List.mem_append_right _ List.mem_cons_self)
    have hkept : ∀ {asked : Bool} (r : Ref), r ∈ gone ++ left → Owns s i bodies asked false r →
        Owns s' i bodies asked false r := by
      intro asked r hr howns
      have hold := haccepted r (((List.sublist_cons_self _ left).append_left gone).subset hr)
      refine hstep.kept howns (fun hhandling => ?_) (.inl hold)
      exact hfresh ((Call.handling_cancelling hhandling).1 ▸ hr)
    have hgone' : ∀ r ∈ gone, Owns s' i bodies true false r :=
      fun r hr => hkept r (List.mem_append_left _ hr) (hgone r hr)
    have hleft' : ∀ r ∈ left, Owns s' i bodies false false r :=
      fun r hr => hkept r (List.mem_append_right _ hr) (hleft r hr)
    -- the record that the batch is at joins those that it has cancelled
    have hended : Owns s' i bodies true false current.record →
        Stands s' i n log bodies (.afterFailed error left) := by
      intro hcurrent'
      refine .afterFailed hfailed (hsplit.trans (List.append_cons _ _ _)) (fun r hr => ?_) hleft'
      rcases List.mem_append.mp hr with hold | hnew
      · exact hgone' r hold
      · exact List.mem_singleton.mp hnew ▸ hcurrent'
    have hcurrent_kept : current.hasAsked = true → Owns s' i bodies true false current.record := by
      intro hasked
      rw [hasked] at hcurrent
      refine hstep.kept hcurrent (fun hhandling => ?_) (.inl hmem)
      rw [(Call.handling_cancelling hhandling).2] at hasked
      cases hasked
    cases hmove with
    | @asked _ r _ _ hnext =>
      have hcore := s.cancelRecord_core r false
      have hmade : (s.cancelRecord r false).1.records.length = s.records.length :=
        (congrArg (fun w => w.records.length) hcore).trans (List.length_modify _ _ _)
      rw [hquiet hmade (congrArg (fun w => w.accepted) hcore)]
      have hasked := hstep.asked hcurrent hmem
      rcases hnext with ⟨k, rfl⟩ | rfl | rfl
      · exact .cancelling hfailed hsplit hgone' hasked hleft'
      · exact .cancelling hfailed hsplit hgone' hasked hleft'
      · exact hended hasked
    | removed =>
      rw [hquiet rfl rfl]
      exact .cancelling hfailed hsplit hgone' (hcurrent_kept rfl) hleft'
    | noted =>
      rw [hquiet rfl rfl]
      exact hended (hcurrent_kept rfl)

/-- A batch that has had all its bodies accepted goes on with their outcomes. -/
theorem Stands.next_collecting {outcomes : List (Except TaskError α)} {left : List Ref}
    (h : Stands s i n log bodies (.collecting outcomes left))
    (hstep : BatchStep s i choice (.collecting outcomes left) u s' stage')
    (haccepted : ∀ r ∈ log.admitted, r ∈ s.accepted) (hnodup : log.admitted.Nodup) :
    Stands s' i n (log.next i s (.call i choice) s') bodies stage' := by
  have hmove := hstep.move
  have hquiet : u.records.length = s.records.length → u.accepted = s.accepted →
      log.next i s (.call i choice) s' = log := fun hmade hsame =>
    hstep.next_quiet log 0 hmade hsame rfl rfl
  cases h with
  | @collecting _ gone _ hfull hsplit houtcomes hleft =>
    rw [hsplit] at haccepted hnodup
    have hkept : ∀ {taken : Bool} (r : Ref), r ∈ gone ++ left → left.head? ≠ some r →
        Owns s i bodies false taken r → Owns s' i bodies false taken r := by
      intro taken r hr hhead howns
      refine hstep.kept howns (fun hhandling => ?_) (.inl (haccepted r hr))
      cases left <;> cases hhandling
      exact hhead rfl
    have hpaid : List.Forall₂ (Pays s' i bodies) gone outcomes := by
      have hnot : ∀ r ∈ gone, r ∈ gone ∧ left.head? ≠ some r := by
        obtain ⟨-, -, hdisjoint⟩ := List.nodup_append.mp hnodup
        exact fun r hr => ⟨hr, fun hhead => hdisjoint r hr r (List.mem_of_head? hhead) rfl⟩
      refine ((List.forall₂_and_left _ _).mpr ⟨hnot, houtcomes⟩).imp fun r outcome hr => ?_
      obtain ⟨⟨hgone, hhead⟩, howns, hresult⟩ := hr
      exact ⟨hkept r (List.mem_append_left _ hgone) hhead howns, hresult⟩
    cases hmove with
    | @collected _ r rest hfinal =>
      rw [hquiet (List.length_modify _ _ _) rfl]
      have hfresh := (List.nodup_cons.mp (List.nodup_middle.mp hnodup)).1
      have hpays := hstep.collected (hleft r List.mem_cons_self)
        (haccepted r (List.mem_append_right _ List.mem_cons_self)) hfinal
      refine .collecting hfull (hsplit.trans (List.append_cons _ _ _))
        (List.rel_append hpaid (.cons hpays .nil)) fun r' hr => ?_
      have hlater := List.mem_cons_of_mem r hr
      refine hkept r' (List.mem_append_right _ hlater) (fun hhead => ?_) (hleft r' hlater)
      obtain rfl := Option.some.inj hhead
      exact hfresh (List.mem_append_right _ hr)
    | finished =>
      rw [hquiet rfl rfl]
      rw [List.append_nil] at hsplit
      exact .finished hfull (hsplit ▸ hpaid)

/-- A batch goes on. -/
theorem Stands.next (h : Stands s i n log bodies stage)
    (hstep : BatchStep s i choice stage u s' stage')
    (haccepted : ∀ r ∈ log.admitted, r ∈ s.accepted) (hnodup : log.admitted.Nodup)
    (hunmade : ∀ r, s.record? r = none → bodies.starts r = 0 ∧ bodies.results r = []) :
    Stands s' i n (log.next i s (.call i choice) s') bodies stage' := by
  cases stage with
  | submitting accepted current left =>
    obtain rfl : log.admitted = accepted := by cases h; rfl
    exact h.next_submitting hstep haccepted hunmade
  | cancelling error current left => exact h.next_cancelling hstep haccepted hnodup
  | collecting outcomes left => exact h.next_collecting hstep haccepted hnodup
  | _ => cases hstep.move

/-- A batch and its log stay in accordance. -/
theorem Tracks.step (h : Tracks s i n log bodies) (hs : Reachable s)
    (hstep : s.step a = some s') : Tracks s' i n (log.next i s a s') (bodies.next s a s') := by
  obtain ⟨stage, hcall, hstands⟩ := h.stands
  rcases hs.step_batch hstep hcall with
    ⟨hsame, hother, -⟩ | ⟨choice, u, stage', rfl, hmove, hnext, hresult⟩
  · exact h.step_other hs hstep hother (hsame.trans hcall.symm)
  · have hown : BatchStep s i choice stage u s' stage' :=
      ⟨hs, hstep, hcall, hnext, hmove, hresult⟩
    have haccepted : ∀ r ∈ log.admitted, r ∈ s.accepted := fun r hr => h.accepted.subset hr
    have hnodup : log.admitted.Nodup := hs.accepted_nodup.sublist h.accepted
    refine ⟨⟨stage', hnext, ?_⟩, ?_, h.step_unmade hs hstep⟩
    · rw [bodies.next_call]
      exact hstands.next hown haccepted hnodup h.unmade
    · obtain ⟨more, hmore⟩ := step_accepted_grows hstep
      have hadmitted : (log.next i s (.call i choice) s').admitted = log.admitted ++ more := by
        rw [log.next_own hcall, ← hmore, List.drop_left]
      rw [hadmitted, ← hmore]
      exact h.accepted.append_right more

/-! ## Runs -/

/-- The log of a call over a run. -/
def CallLog.ofRun (i : Nat) (s : System α) (actions : List (Action α)) : CallLog where
  attempts := s.occurrences (System.attempts i) actions
  made := notes System.step (makings i) s actions
  admitted := notes System.step (admissions i) s actions
  refused := notes System.step (refusals i) s actions

/-- The log of the bodies over a run. -/
def BodyLog.ofRun (s : System α) (actions : List (Action α)) : BodyLog α where
  starts r := s.occurrences (startsBody r) actions
  results r := notes System.step (bodyResults r) s actions

theorem exec_eq_foldlM (s : System α) (actions : List (Action α)) :
    s.exec actions = actions.foldlM System.step s := by
  induction actions generalizing s with
  | nil => rfl
  | cons a rest ih =>
    rw [exec, List.foldlM_cons, Option.bind_eq_bind]
    exact congrArg _ (funext ih)

variable {before : List (Action α)}

theorem occurrences_concat (h : s.exec before = some t) (hstep : t.step a = some u)
    (event : System α → Action α → System α → Bool) :
    s.occurrences event (before ++ [a]) = s.occurrences event before + (event t a u).toNat := by
  rw [occurrences_append h, occurrences_cons hstep]
  rfl

theorem CallLog.ofRun_concat (h : s.exec before = some t) (hstep : t.step a = some u) :
    ofRun i s (before ++ [a]) = (ofRun i s before).next i t a u := by
  have hnotes := fun {β : Type} (note : System α → Action α → System α → List β) =>
    notes_concat (exec_eq_foldlM s before ▸ h) hstep note
  rw [ofRun, occurrences_concat h hstep, hnotes, hnotes, hnotes]
  rfl

theorem BodyLog.ofRun_concat (h : s.exec before = some t) (hstep : t.step a = some u) :
    ofRun s (before ++ [a]) = (ofRun s before).next t a u := by
  rw [ofRun, next, mk.injEq]
  exact ⟨funext fun r => occurrences_concat h hstep _,
    funext fun r => notes_concat (exec_eq_foldlM s before ▸ h) hstep _⟩

/-- A batch that has just begun. -/
theorem tracks_of_begin (hbegin : s.step (.begin (.submitAll n)) = some s') :
    Tracks s' s.calls.length n (.ofRun s.calls.length s' []) (.ofRun s' []) := by
  cases hbegin
  refine ⟨?_, List.nil_sublist _, fun _ _ => ⟨rfl, rfl⟩⟩
  cases n with
  | zero =>
    exact ⟨_, List.getElem?_concat_length, .collecting ⟨rfl, rfl, rfl, rfl⟩ rfl .nil nofun⟩
  | succ n =>
    refine ⟨_, List.getElem?_concat_length, .submitting rfl rfl rfl ?_ nofun nofun⟩
    exact congrArg (· + 1) (Nat.zero_add n)

/-- A batch and what a run has shown of it are in accordance. -/
theorem tracks_of_run {actions : List (Action α)} (hs : Reachable s)
    (hbegin : s.step (.begin (.submitAll n)) = some s') (hrun : s'.exec actions = some t) :
    Tracks t s.calls.length n (.ofRun s.calls.length s' actions) (.ofRun s' actions) := by
  have hs' := hs.step _ hbegin
  rw [exec_eq_foldlM] at hrun
  refine run_induction (P := fun actions t =>
    Tracks t s.calls.length n (.ofRun s.calls.length s' actions) (.ofRun s' actions))
    (tracks_of_begin hbegin) (fun hbefore htracks hstep => ?_) hrun
  rw [← exec_eq_foldlM] at hbefore
  rw [CallLog.ofRun_concat hbefore hstep, BodyLog.ofRun_concat hbefore hstep]
  exact htracks.step (hs'.exec hbefore) hstep

end System

end TaskScheduler
