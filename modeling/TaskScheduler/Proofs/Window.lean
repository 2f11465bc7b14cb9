import TaskScheduler.Proofs.Sections.Core

/-
  The two looks of an offer at its record.

  Whoever offers a record to the delay queue holds the lock of the queue all along, but looks at the
  record twice under the lock of the record: first whether it waits, and then what its key is. In
  `offer` and `putBack` the two are one; `offerSeen` and `putBackSeen` take the answer of the first
  look as given, so that something may happen between the two. `offerSeen_cancelRecord`,
  `putBackSeen_cancelRecord`: what happens to a cancellation there is what happens to one that comes
  after the offer, whichever record it is of.
-/
namespace TaskScheduler.System

variable {α : Type} {r r' : Ref} {mayInterrupt : Bool}

/-- Offers a record to the delay queue, having seen before whether it waits. -/
def offerSeen (s : System α) (pending : Bool) (r : Ref) : System α × Option Bool :=
  match s.queue.offer pending (s.key r) r with
  | some (queue, needsPump) => ({ s with queue }, some needsPump)
  | none => (s, none)

/-- Puts a record back into the delay queue, having seen before whether it waits. -/
def putBackSeen (s : System α) (pending : Bool) (r : Ref) : System α :=
  { s with queue := s.queue.putBack pending (s.key r) r }

theorem offer_eq_offerSeen (s : System α) (r : Ref) : s.offer r = s.offerSeen (s.isPending r) r :=
  rfl

theorem putBack_eq_putBackSeen (s : System α) (r : Ref) :
    s.putBack r = s.putBackSeen (s.isPending r) r := rfl

theorem cancel_key_eq (x : Record α) (mayInterrupt : Bool) :
    (x.cancel mayInterrupt).1.key = x.key := by
  unfold Record.cancel
  split
  · rfl
  · split <;> rfl
  · rfl

/-- A cancellation moves no trigger, so it leaves all keys as they are. -/
theorem cancelRecord_key_eq (s : System α) :
    (s.cancelRecord r' mayInterrupt).1.key r = s.key r := by
  have hcore := cancelRecord_core s r' mayInterrupt
  have hrecords : (s.cancelRecord r' mayInterrupt).1.records =
      s.records.modify r' fun record => (record.cancel mayInterrupt).1 :=
    congrArg (fun w => w.records) hcore
  rw [key, key, record?_of_modify hrecords]
  split
  · cases s.record? r with
    | none => rfl
    | some x => exact cancel_key_eq x mayInterrupt
  · rfl

theorem cancelRecord_queue (s : System α) : (s.cancelRecord r' mayInterrupt).1.queue = s.queue := by
  unfold cancelRecord
  split <;> rfl

/-- A cancellation has nothing to do with the delay queue. -/
theorem cancelRecord_with_queue (s : System α) (queue : DelayQueue) :
    ({ s with queue } : System α).cancelRecord r' mayInterrupt =
      ({ (s.cancelRecord r' mayInterrupt).1 with queue },
        (s.cancelRecord r' mayInterrupt).2) := by
  have hsame : ({ s with queue } : System α).record? r' = s.record? r' := rfl
  rw [cancelRecord, cancelRecord, hsame]
  cases s.record? r' <;> rfl

/-- A cancellation between the two looks of an offer might as well come after the offer. -/
theorem offerSeen_cancelRecord (s : System α) :
    (s.cancelRecord r' mayInterrupt).1.offerSeen (s.isPending r) r =
        (((s.offer r).1.cancelRecord r' mayInterrupt).1, (s.offer r).2) ∧
      ((s.offer r).1.cancelRecord r' mayInterrupt).2 = (s.cancelRecord r' mayInterrupt).2 := by
  rw [offerSeen, cancelRecord_key_eq, cancelRecord_queue, offer]
  cases s.queue.offer (s.isPending r) (s.key r) r with
  | none => simp only [and_self]
  | some offered => simp only [cancelRecord_with_queue, and_self]

/-- A cancellation between the two looks of the pump, when it puts a record back, might as well come
after that. -/
theorem putBackSeen_cancelRecord (s : System α) :
    (s.cancelRecord r' mayInterrupt).1.putBackSeen (s.isPending r) r =
        ((s.putBack r).cancelRecord r' mayInterrupt).1 ∧
      ((s.putBack r).cancelRecord r' mayInterrupt).2 = (s.cancelRecord r' mayInterrupt).2 := by
  rw [putBackSeen, cancelRecord_key_eq, cancelRecord_queue, putBack]
  simp only [cancelRecord_with_queue, and_self]

end TaskScheduler.System
