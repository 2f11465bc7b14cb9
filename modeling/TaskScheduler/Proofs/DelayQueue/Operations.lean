import TaskScheduler.Proofs.DelayQueue

/-
  The delay queue on its own, under any sequence of operations.

  Each operation is one section under the lock of the queue. The consumer's wait is a sequence of
  `look`s, one each time it wakes up, and between two of them other operations may come. `Acts`: all
  that an operation can do to the queue, and what it answers then (`act_acts`). Only closing closes
  the queue (`after_closed`).
-/
namespace TaskScheduler.DelayQueue

/-- An operation of the queue. Whether a record that is put in is pending is found out under the
lock. -/
inductive Op where
  | offer (pending : Bool) (k : Key) (r : Ref)
  /-- The consumer puts back a record whose hand-off has failed. -/
  | putBack (pending : Bool) (k : Key) (r : Ref)
  | remove (k : Key)
  /-- The waiting consumer looks whether there is something for it. -/
  | look (now : Instant) (idleElapsed : Bool)
  | untilDue (now : Instant)
  | close
  | releaseConsumer
deriving DecidableEq, Repr

/-- What an operation answers. -/
inductive Answer where
  /-- Whether a consumer has to be started; `none` if the queue is closed. -/
  | offered (needsConsumer : Option Bool)
  | removed (found : Bool)
  /-- What the consumer gets; `none` if it waits on. -/
  | delivered (delivery : Option Delivery)
  | due (nanos : Option Nat)
  | closed (needsConsumer : Bool)
  | done
deriving DecidableEq, Repr

/-- What an operation puts in, if the record is pending and the queue takes it. -/
def Op.entry? : Op → Option (Key × Ref)
  | offer _ k r | putBack _ k r => some (k, r)
  | _ => none

/-- The queue after an operation, and the answer. -/
def act (q : DelayQueue) : Op → DelayQueue × Answer
  | .offer pending k r =>
    match q.offer pending k r with
    | some (q', needsConsumer) => (q', .offered (some needsConsumer))
    | none => (q, .offered none)
  | .putBack pending k r => (q.putBack pending k r, .done)
  | .remove k => ((q.remove k).1, .removed (q.remove k).2)
  | .look now idleElapsed =>
    match q.take? now idleElapsed with
    | some (delivery, q') => (q', .delivered (some delivery))
    | none => (q, .delivered none)
  | .untilDue now => (q, .due (q.untilDue now))
  | .close => (q.close.1, .closed q.close.2)
  | .releaseConsumer => (q.releaseConsumer, .done)

/-- The queue after some operations. -/
def after (q : DelayQueue) (ops : List Op) : DelayQueue := ops.foldl (fun q op => (q.act op).1) q

/-- The answers of some operations. -/
def answers (q : DelayQueue) : List Op → List Answer
  | [] => []
  | op :: rest => (q.act op).2 :: answers (q.act op).1 rest

/-- How often something happens in the course of some operations. -/
def times (event : DelayQueue → Op → Bool) (q : DelayQueue) : List Op → Nat
  | [] => 0
  | op :: rest => (event q op).toNat + times event (q.act op).1 rest

variable {q q' : DelayQueue} {ops : List Op} {op : Op} {k : Key} {r : Ref}

/-! ## What the operations do -/

/-- What an operation does to the queue, and what it answers. -/
inductive Acts (q : DelayQueue) : Op → DelayQueue → Answer → Prop where
  | offered {pending : Bool} {k : Key} {r : Ref} : q.closed = false →
      Acts q (.offer pending k r)
        { q with
          entries := entriesWith pending k r q.entries
          consumerActive := true
          depthGauge :=
            if pending then some (entriesWith pending k r q.entries).length else q.depthGauge }
        (.offered (some !q.consumerActive))
  | refused {pending : Bool} {k : Key} {r : Ref} : q.closed = true →
      Acts q (.offer pending k r) q (.offered none)
  | putBack {pending : Bool} {k : Key} {r : Ref} :
      Acts q (.putBack pending k r) { q with entries := entriesWith pending k r q.entries } .done
  | removed {k : Key} {r : Ref} : (k, r) ∈ q.entries →
      Acts q (.remove k) { q with entries := q.entries.filter (·.1 ≠ k) }.publishDepth
        (.removed true)
  | missed {k : Key} : (∀ e ∈ q.entries, e.1 ≠ k) → Acts q (.remove k) q (.removed false)
  | delivered {now : Instant} {idleElapsed : Bool} {k : Key} {r : Ref}
      {rest : List (Key × Ref)} : q.entries = (k, r) :: rest →
      k.trigger ≤ now ∨ q.closed = true →
      Acts q (.look now idleElapsed) { q with entries := rest }.publishDepth
        (.delivered (some (.ready r (decide (now < k.trigger)))))
  | drained {now : Instant} {idleElapsed : Bool} : q.entries = [] → q.closed = true →
      Acts q (.look now idleElapsed) { q with consumerActive := false }
        (.delivered (some .closed))
  | idled {now : Instant} : q.entries = [] → q.closed = false →
      Acts q (.look now true) { q with consumerActive := false } (.delivered (some .idle))
  | notDue {now : Instant} {idleElapsed : Bool} {k : Key} {r : Ref} {rest : List (Key × Ref)} :
      q.entries = (k, r) :: rest → now < k.trigger → q.closed = false →
      Acts q (.look now idleElapsed) q (.delivered none)
  | awaited {now : Instant} : q.entries = [] → q.closed = false →
      Acts q (.look now false) q (.delivered none)
  | asked {now : Instant} : Acts q (.untilDue now) q (.due (q.untilDue now))
  | closed : Acts q .close { q with closed := true, consumerActive := true }
      (.closed !q.consumerActive)
  | released : Acts q .releaseConsumer { q with consumerActive := false } .done

theorem act_offer (q : DelayQueue) (pending : Bool) (k : Key) (r : Ref) :
    Acts q (.offer pending k r) (q.act (.offer pending k r)).1
      (q.act (.offer pending k r)).2 := by
  obtain ⟨entries, closed, consumerActive, gauge⟩ := q
  cases closed with
  | true => exact .refused rfl
  | false => cases pending <;> exact .offered rfl

theorem act_remove (q : DelayQueue) (k : Key) :
    Acts q (.remove k) (q.act (.remove k)).1 (q.act (.remove k)).2 := by
  simp only [act, remove]
  split
  next hfound =>
    obtain ⟨⟨k', r⟩, he, hk⟩ := List.any_eq_true.mp hfound
    obtain rfl : k' = k := of_decide_eq_true hk
    exact .removed he
  next hnone =>
    simp only [List.any_eq_true, decide_eq_true_eq, not_exists, not_and] at hnone
    exact .missed hnone

theorem look_cons {now : Instant} {idleElapsed : Bool} {rest : List (Key × Ref)}
    (hentries : q.entries = (k, r) :: rest) :
    q.act (.look now idleElapsed) =
      if k.trigger ≤ now ∨ q.closed = true then
        ({ q with entries := rest }.publishDepth, .delivered (some (.ready r (now < k.trigger))))
      else (q, .delivered none) := by
  by_cases hout : k.trigger ≤ now ∨ q.closed = true
  · simp only [act, take?, hentries, if_pos hout]
  · simp only [act, take?, hentries, if_neg hout]

theorem look_nil {now : Instant} {idleElapsed : Bool} (hentries : q.entries = []) :
    q.act (.look now idleElapsed) =
      if q.closed = true then ({ q with consumerActive := false }, .delivered (some .closed))
      else if idleElapsed = true then
        ({ q with consumerActive := false }, .delivered (some .idle))
      else (q, .delivered none) := by
  obtain ⟨entries, closed, consumerActive, gauge⟩ := q
  cases hentries
  cases closed <;> cases idleElapsed <;> rfl

theorem act_look (q : DelayQueue) (now : Instant) (idleElapsed : Bool) :
    Acts q (.look now idleElapsed) (q.act (.look now idleElapsed)).1
      (q.act (.look now idleElapsed)).2 := by
  cases hentries : q.entries with
  | nil =>
    rw [look_nil hentries]
    split
    next hclosed => exact .drained hentries hclosed
    next hopen =>
      have hopen := eq_false_of_ne_true hopen
      cases idleElapsed with
      | true => exact .idled hentries hopen
      | false => exact .awaited hentries hopen
  | cons e rest =>
    rw [look_cons hentries]
    split
    next hout => exact .delivered hentries hout
    next hkept =>
      obtain ⟨hlater, hopen⟩ := not_or.mp hkept
      exact .notDue hentries (Int.not_le.mp hlater) (eq_false_of_ne_true hopen)

theorem act_acts (q : DelayQueue) (op : Op) : Acts q op (q.act op).1 (q.act op).2 := by
  cases op with
  | offer pending k r => exact act_offer q pending k r
  | putBack pending k r => cases pending <;> exact .putBack
  | remove k => exact act_remove q k
  | look now idleElapsed => exact act_look q now idleElapsed
  | untilDue now => exact .asked
  | close => exact .closed
  | releaseConsumer => exact .released

/-- Only `close` closes a queue, and nothing opens it again. -/
theorem Acts.closed_iff {answer : Answer} (hacts : Acts q op q' answer) :
    q'.closed = true ↔ q.closed = true ∨ op = .close := by
  cases hacts with
  | closed => simp
  | _ => simp [publishDepth]

/-- A queue is closed from the first `close` on. -/
theorem after_closed (q : DelayQueue) (ops : List Op) :
    (q.after ops).closed = true ↔ q.closed = true ∨ .close ∈ ops := by
  induction ops generalizing q with
  | nil => simp [after]
  | cons op rest ih =>
    show ((q.act op).1.after rest).closed = true ↔ _
    rw [ih, (act_acts q op).closed_iff, List.mem_cons, or_assoc, @eq_comm _ op]

end TaskScheduler.DelayQueue
