import TaskScheduler.Proofs.Admission
import TaskScheduler.Proofs.RunQueue
import TaskScheduler.Proofs.Termination

/-
  Which records a call has to do with.

  `Call.concerns` lists the records that a call has made, or is to cancel or to fetch the outcome
  of. A call comes to concern a record by making it (`stageStep_concerns`), or from the start by a
  handle (`firstStage_concerns`), so no call concerns a record that is still to be made
  (`Reachable.concerned`). Records that it does not concern it leaves alone (`stageStep_record`).
-/
namespace TaskScheduler

/-- The record that a submission has made. -/
def Submission.record? : Submission → Option Ref
  | arriving => none
  | explaining r | failed r _ => r
  | executing r | checking r _ | offering r _ | startingPump r _ _ | retracting r _ _ | counting r _
  | accepted r | aborted r _ => some r

/-- The record whose outcome is retrieved. -/
def Retrieval.record {α : Type} : Retrieval α → Ref
  | waiting r _ | taking r | answered r _ => r

/-- The records that a call still has to do with. -/
def Call.concerns {α : Type} : Call α → List Ref
  | submission stage => stage.record?.toList
  | withdrawal stage => [stage.record]
  | retrieval stage => [stage.record]
  | disposal _ => []
  | batch (.submitting accepted current _) => accepted ++ current.record?.toList
  | batch (.cancelling _ current left) => current.record :: left
  | batch (.collecting _ left) => left
  | batch _ => []

/-- The record that the next section of a call ends, or takes the outcome of. -/
def Call.handling? {α : Type} : Call α → Option Ref
  | withdrawal (.asking r _) | batch (.cancelling _ (.asking r _) _) | retrieval (.taking r)
  | batch (.collecting _ (r :: _)) => some r
  | _ => none

theorem Submission.record?_of_duty {stage : Submission} {r : Ref}
    (h : stage.duty.submits r = true) : stage.record? = some r := by
  cases stage <;> first | exact congrArg some (eq_of_beq h) | cases h

/-- A call concerns the record that it owes a duty for as its submission. -/
theorem Call.concerns_of_duty {α : Type} {call : Call α} {r : Ref}
    (h : call.duty.submits r = true) : r ∈ call.concerns := by
  cases call with
  | submission stage =>
    show r ∈ stage.record?.toList
    rw [stage.record?_of_duty h]
    exact List.mem_singleton_self r
  | batch stage =>
    cases stage with
    | submitting accepted current left =>
      refine List.mem_append_right _ ?_
      rw [current.record?_of_duty h]
      exact List.mem_singleton_self r
    | cancelling error current left => cases current <;> cases h
    | _ => cases h
  | withdrawal stage => cases stage <;> cases h
  | disposal stage => cases stage <;> cases h
  | retrieval stage => cases h

theorem Call.concerns_of_handling {α : Type} {call : Call α} {r : Ref}
    (h : call.handling? = some r) : r ∈ call.concerns := by
  unfold handling? at h
  split at h <;> cases h <;> exact List.mem_cons_self

namespace System

variable {α : Type} {s s' t u : System α} {a : Action α} {r : Ref} {i choice : Nat}
  {call call' : Call α}

/-! ## Submissions -/

/-- What a section of a submission does to records and handles. -/
structure Submits (s : System α) (stage : Submission) (u : System α) (stage' : Submission) :
    Prop where
  handles : u.handles = s.handles
  records : (u.records = s.records ∧ stage'.record? = stage.record?) ∨
    (stage'.record? = some s.records.length ∧ ∃ x, u.records = s.records ++ [x])

theorem submissionStep_submits {stage stage' : Submission}
    (h : s.submissionStep choice stage = some (u, stage')) : Submits s stage u stage' := by
  cases stage with
  | arriving =>
    simp only [submissionStep] at h
    split at h <;> cases h
    · exact ⟨rfl, .inr ⟨rfl, _, rfl⟩⟩
    · exact ⟨rfl, .inl ⟨rfl, rfl⟩⟩
  | executing r =>
    unfold submissionStep execute at h
    simp only at h
    split at h <;>
      next heq =>
        obtain ⟨rfl, -⟩ := Prod.mk.inj heq
        cases h
        exact ⟨rfl, .inl ⟨rfl, rfl⟩⟩
  | checking r kind =>
    simp only [submissionStep] at h
    split at h <;> cases h <;> exact ⟨rfl, .inl ⟨rfl, rfl⟩⟩
  | offering r kind =>
    simp only [submissionStep, offer] at h
    cases hoffer : s.queue.offer (s.isPending r) (s.key r) r with
    | none =>
      rw [hoffer] at h
      cases h
      exact ⟨rfl, .inl ⟨rfl, rfl⟩⟩
    | some offered =>
      obtain ⟨queue, needsPump⟩ := offered
      rw [hoffer] at h
      cases needsPump <;> cases h <;> exact ⟨rfl, .inl ⟨rfl, rfl⟩⟩
  | startingPump r kind k =>
    simp only [submissionStep] at h
    split at h
    · cases h
    · split at h <;> cases h <;> exact ⟨rfl, .inl ⟨rfl, rfl⟩⟩
  | retracting r k reason =>
    cases h
    exact ⟨rfl, .inl ⟨rfl, rfl⟩⟩
  | counting r kind =>
    cases h
    exact ⟨rfl, .inl ⟨rfl, rfl⟩⟩
  | explaining r =>
    cases h
    exact ⟨rfl, .inl ⟨rfl, rfl⟩⟩
  | _ => cases h

theorem Submits.record {stage stage' : Submission} (h : Submits s stage u stage')
    (hmade : r < s.records.length) : u.record? r = s.record? r := by
  rcases h.records with ⟨hsame, -⟩ | ⟨-, x, hnew⟩
  · rw [record?, hsame, record?]
  · rw [record?, hnew, List.getElem?_append_left hmade, record?]

theorem Submits.concerned {stage stage' : Submission} (h : Submits s stage u stage')
    (hr : stage'.record? = some r) :
    stage.record? = some r ∨ (r = s.records.length ∧ r < u.records.length) := by
  rcases h.records with ⟨-, hsame⟩ | ⟨hnew, x, hgrown⟩
  · exact .inl (hsame ▸ hr)
  · obtain rfl : s.records.length = r := Option.some.inj (hnew.symm.trans hr)
    rw [hgrown, List.length_append, List.length_singleton]
    exact .inr ⟨rfl, Nat.lt_succ_self _⟩

/-! ## Other calls -/

theorem withdrawalStep_other {stage stage' : Withdrawal}
    (h : s.withdrawalStep stage = some (u, stage')) (hnot : ∀ m, stage ≠ .asking r m) :
    u.record? r = s.record? r := by
  cases stage with
  | asking r' mayInterrupt =>
    have hne : r' ≠ r := fun hr => hnot mayInterrupt (by rw [hr])
    rw [withdrawalStep_asking h, cancelRecord]
    split
    · exact List.getElem?_modify_ne _ _ hne
    · rfl
  | removing r' k =>
    cases h
    rfl
  | counting r' =>
    cases h
    rfl
  | answered r' accepted => cases h

theorem takeAnswer_other {r' : Ref} (hne : r' ≠ r) :
    (s.takeAnswer r').1.record? r = s.record? r :=
  List.getElem?_modify_ne _ _ hne

/-- A retrieval keeps to its record, and takes no outcome but that of its record. -/
theorem retrievalStep_other {stage stage' : Retrieval α}
    (h : s.retrievalStep stage = some (u, stage')) :
    stage'.record = stage.record ∧ (stage ≠ .taking r → u.record? r = s.record? r) := by
  cases stage with
  | waiting r' limit =>
    simp only [retrievalStep] at h
    split at h
    · cases h
      exact ⟨rfl, fun _ => rfl⟩
    · split at h
      · split at h <;> cases h
        exact ⟨rfl, fun _ => rfl⟩
      · cases h
  | taking r' =>
    cases h
    exact ⟨rfl, fun hnot => takeAnswer_other fun hr => hnot (congrArg _ hr)⟩
  | answered r' outcome => cases h

theorem disposalStep_records {stage stage' : Disposal}
    (h : s.disposalStep stage = some (u, stage')) : u.records = s.records := by
  cases stage with
  | asking =>
    simp only [disposalStep] at h
    split at h <;> cases h <;> rfl
  | closing =>
    simp only [disposalStep, closeQueue] at h
    cases hneeds : s.queue.close.2 <;> rw [hneeds] at h <;> cases h <;> rfl
  | startingPump =>
    simp only [disposalStep] at h
    split at h
    · cases h
    · split at h <;> cases h <;> rfl
  | draining =>
    simp only [disposalStep] at h
    split at h <;> cases h <;> rfl
  | _ => cases h

/-! ## Calls -/

theorem batchNext_concerns {accepted : List Ref} {left : Nat} {stage : Submission}
    (hr : r ∈ (Call.batch (batchNext accepted left stage : Batch α)).concerns) :
    r ∈ accepted ∨ stage.record? = some r := by
  have hmem : r ∈ accepted ++ stage.record?.toList → r ∈ accepted ∨ stage.record? = some r :=
    fun h => (List.mem_append.mp h).imp_right Option.mem_toList.mp
  cases stage with
  | accepted r' =>
    cases left with
    | zero => exact hmem hr
    | succ n =>
      rw [show (Call.batch (batchNext accepted (n + 1) (.accepted r') : Batch α)).concerns =
        (accepted ++ [r']) ++ [] from rfl, List.append_nil] at hr
      exact hmem hr
  | failed record error =>
    cases accepted with
    | nil => cases hr
    | cons r' rest => exact .inl hr
  | aborted r' failure => cases hr
  | _ => exact hmem hr

theorem batchStep_concerns {stage stage' : Batch α}
    (h : s.batchStep choice stage = some (u, stage')) (hr : r ∈ (Call.batch stage').concerns) :
    r ∈ (Call.batch stage).concerns ∨ (r = s.records.length ∧ r < u.records.length) := by
  cases stage with
  | submitting accepted current left =>
    obtain ⟨⟨v, next⟩, hnext, heq⟩ := Option.map_eq_some_iff.mp h
    cases heq
    rcases batchNext_concerns hr with hold | hnew
    · exact .inl (List.mem_append_left _ hold)
    · refine ((submissionStep_submits hnext).concerned hnew).imp_left fun hcurrent => ?_
      exact List.mem_append_right _ (Option.mem_toList.mpr hcurrent)
  | cancelling error current left =>
    obtain ⟨⟨v, next⟩, hnext, heq⟩ := Option.map_eq_some_iff.mp h
    have hrecord := withdrawalStep_record hnext
    refine .inl ?_
    show r ∈ current.record :: left
    cases next with
    | answered r' answer =>
      cases left with
      | nil =>
        cases heq
        cases hr
      | cons r'' rest =>
        cases heq
        exact List.mem_cons_of_mem _ hr
    | _ =>
      cases heq
      rw [← hrecord]
      exact hr
  | collecting outcomes left =>
    cases left with
    | nil =>
      cases h
      cases hr
    | cons r' rest =>
      simp only [batchStep] at h
      split at h <;> cases h
      exact .inl (List.mem_cons_of_mem _ hr)
  | _ => cases h

/-- A call comes to concern a record by making it. -/
theorem stageStep_concerns (h : s.stageStep choice call = some (u, call'))
    (hr : r ∈ call'.concerns) :
    r ∈ call.concerns ∨ (r = s.records.length ∧ r < u.records.length) := by
  cases call with
  | submission stage =>
    obtain ⟨⟨v, stage'⟩, hstage, heq⟩ := Option.map_eq_some_iff.mp h
    cases heq
    have hgive : (v.giveHandle stage').records = v.records := by cases stage' <;> rfl
    rw [hgive]
    have hconcerned := (submissionStep_submits hstage).concerned (Option.mem_toList.mp hr)
    exact hconcerned.imp_left Option.mem_toList.mpr
  | withdrawal stage =>
    obtain ⟨⟨v, stage'⟩, hstage, heq⟩ := Option.map_eq_some_iff.mp h
    cases heq
    rw [Call.concerns, withdrawalStep_record hstage] at hr
    exact .inl hr
  | retrieval stage =>
    obtain ⟨⟨v, stage'⟩, hstage, heq⟩ := Option.map_eq_some_iff.mp h
    cases heq
    rw [Call.concerns, (retrievalStep_other (r := r) hstage).1] at hr
    exact .inl hr
  | disposal stage =>
    obtain ⟨⟨v, stage'⟩, hstage, heq⟩ := Option.map_eq_some_iff.mp h
    cases heq
    cases hr
  | batch stage =>
    obtain ⟨⟨v, stage'⟩, hstage, heq⟩ := Option.map_eq_some_iff.mp h
    cases heq
    exact batchStep_concerns hstage hr

theorem CallRefusal.concerns {reason : String} (h : CallRefusal s reason call u call') :
    call'.concerns = call.concerns := by
  cases h <;> rfl

/-- What a call is to cancel or to fetch from the start it has a handle of. -/
theorem firstStage_concerns {request : Request} (hr : r ∈ (s.firstStage request).2.concerns) :
    request.handle? = some r ∨
      (r = s.records.length ∧ r < (s.firstStage request).1.records.length) := by
  have hnew : ∀ record : Record α, r ∈ [s.records.length] →
      r = s.records.length ∧ r < (s.records ++ [record]).length := by
    intro record hmem
    rw [List.mem_singleton.mp hmem, List.length_append, List.length_singleton]
    exact ⟨rfl, Nat.lt_succ_self _⟩
  cases request with
  | schedule delay => exact .inr (hnew _ hr)
  | scheduleSeries delay recurrence =>
    simp only [firstStage] at hr ⊢
    split at hr
    · cases hr
    next hperiod =>
      rw [if_neg hperiod]
      exact .inr (hnew _ hr)
  | cancel r' mayInterrupt => exact .inl (congrArg some (List.mem_singleton.mp hr).symm)
  | fetch r' timeout => exact .inl (congrArg some (List.mem_singleton.mp hr).symm)
  | submitAll count => cases count <;> cases hr
  | submit => cases hr
  | dispose => cases hr

theorem batchStep_record {stage stage' : Batch α}
    (h : s.batchStep choice stage = some (u, stage')) (hmade : r < s.records.length)
    (hnot : (Call.batch stage).handling? ≠ some r) : u.record? r = s.record? r := by
  cases stage with
  | submitting accepted current left =>
    obtain ⟨⟨v, next⟩, hnext, heq⟩ := Option.map_eq_some_iff.mp h
    cases heq
    exact (submissionStep_submits hnext).record hmade
  | cancelling error current left =>
    obtain ⟨⟨v, next⟩, hnext, heq⟩ := Option.map_eq_some_iff.mp h
    obtain rfl : v = u := by cases next <;> cases left <;> cases heq <;> rfl
    refine withdrawalStep_other hnext ?_
    rintro m rfl
    exact hnot rfl
  | collecting outcomes left =>
    cases left with
    | nil =>
      cases h
      rfl
    | cons r' rest =>
      simp only [batchStep] at h
      split at h <;> cases h
      exact takeAnswer_other fun hr => hnot (congrArg some hr)
  | _ => cases h

/-- A call does to records nothing but to make them, to end one or to take one outcome. -/
theorem stageStep_record (h : s.stageStep choice call = some (u, call'))
    (hmade : r < s.records.length) (hnot : call.handling? ≠ some r) :
    u.record? r = s.record? r := by
  cases call with
  | submission stage =>
    obtain ⟨⟨v, stage'⟩, hstage, heq⟩ := Option.map_eq_some_iff.mp h
    cases heq
    have hgive : (v.giveHandle stage').record? r = v.record? r := by cases stage' <;> rfl
    exact hgive.trans ((submissionStep_submits hstage).record hmade)
  | withdrawal stage =>
    obtain ⟨⟨v, stage'⟩, hstage, heq⟩ := Option.map_eq_some_iff.mp h
    cases heq
    refine withdrawalStep_other hstage ?_
    rintro m rfl
    exact hnot rfl
  | retrieval stage =>
    obtain ⟨⟨v, stage'⟩, hstage, heq⟩ := Option.map_eq_some_iff.mp h
    cases heq
    refine (retrievalStep_other hstage).2 ?_
    rintro rfl
    exact hnot rfl
  | disposal stage =>
    obtain ⟨⟨v, stage'⟩, hstage, heq⟩ := Option.map_eq_some_iff.mp h
    cases heq
    rw [record?, disposalStep_records hstage, record?]
  | batch stage =>
    obtain ⟨⟨v, stage'⟩, hstage, heq⟩ := Option.map_eq_some_iff.mp h
    cases heq
    exact batchStep_record hstage hmade hnot

theorem step_record_of_call (hstep : s.step (.call i choice) = some s')
    (hcall : s.calls[i]? = some call) (hmade : r < s.records.length)
    (hnot : call.handling? ≠ some r) : s'.record? r = s.record? r := by
  rcases step_calls hstep with
    ⟨-, -, hnone, -⟩ | ⟨request, heq, -⟩ | ⟨j, choice', call', u, call'', heq, hj, hstage, rfl⟩ |
      ⟨_, _, _, _, _, heq, -⟩
  · exact absurd rfl (hnone i choice)
  · cases heq
  · cases heq
    obtain rfl := Option.some.inj (hcall.symm.trans hj)
    have hsame : u.record? r = s.record? r := stageStep_record hstage hmade hnot
    exact hsame
  · cases heq

/-! ## Reachable states -/

/-- No call concerns a record that is still to be made. -/
theorem Reachable.concerned (h : Reachable s) :
    ∀ call ∈ s.calls, ∀ r ∈ call.concerns, r < s.records.length := by
  induction h with
  | initial host name config clockEnd now => exact nofun
  | @step s s' a hs hstep ih =>
    obtain ⟨t, hmove, hcore⟩ := step_move hstep
    have hgrows : s.records.length ≤ s'.records.length :=
      (congrArg (fun w => w.records.length) hcore).symm ▸ hmove.keeps.length_le
    have hkept : ∀ call ∈ s.calls, ∀ r ∈ call.concerns, r < s'.records.length :=
      fun call hcall r hr => Nat.lt_of_lt_of_le (ih call hcall r hr) hgrows
    rcases step_calls hstep with
      ⟨hsame, -⟩ | ⟨request, rfl, hbegun⟩ | ⟨j, choice, call, u, call', rfl, hj, hstage, rfl⟩ |
        ⟨j, reason, call, u, call', rfl, hj, hrefusal, rfl⟩
    · exact hsame ▸ hkept
    · intro call hcall r hr
      rw [hbegun] at hcall
      rcases List.mem_append.mp hcall with hold | hnew
      · exact hkept call hold r hr
      · rw [List.mem_singleton.mp hnew] at hr
        rw [System.step] at hstep
        split at hstep
        next hgranted =>
          cases hstep
          rcases firstStage_concerns hr with hhandle | ⟨-, hmade⟩
          · have haccepted : r ∈ s.accepted :=
              hs.handles r (by simpa [hhandle] using hgranted)
            exact Nat.lt_of_lt_of_le ((hs.held r).known (.inr (.inl haccepted))) hgrows
          · exact hmade
        next => cases hstep
    · intro call'' hcall r hr
      rcases List.mem_or_eq_of_mem_set hcall with hold | rfl
      · exact hkept call'' hold r hr
      · rcases stageStep_concerns hstage hr with hbefore | ⟨-, hmade⟩
        · exact hkept call (List.mem_of_getElem? hj) r hbefore
        · exact hmade
    · intro call'' hcall r hr
      rcases List.mem_or_eq_of_mem_set hcall with hold | rfl
      · exact hkept call'' hold r hr
      · exact hkept call (List.mem_of_getElem? hj) r (hrefusal.concerns ▸ hr)

end System

end TaskScheduler
