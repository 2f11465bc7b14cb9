import TaskScheduler.Proofs.DelayQueue
import TaskScheduler.Proofs.Evolution

/-
  Numbers of records, and what the delay queue, the calls and the workers know records by.

  `Numbered`: the number of a record is its place in the list of records, and an entry of the delay
  queue has the number of its record in its key. So no two records share a key. A call that takes an
  entry out by its key takes out that of a cancelled record, and whoever finds that no pump can be
  started for a record takes out an entry of that record.
-/
namespace TaskScheduler

/-- The record that a pump is to be started for, or could not be, with the key that it was put into
the delay queue under. -/
def Duty.filed? : Duty → Option (Ref × Key)
  | launching record => record
  | retracting r k => some (r, k)
  | _ => none

/-- The record that a worker has to start a pump for, or could not, with its key. -/
def WorkerPhase.filed? : WorkerPhase → Option (Ref × Key)
  | startingPump r k | retracting r k _ => some (r, k)
  | _ => none

namespace System

variable {α : Type} {s t : System α} {a : Action α} {duty duty' : Duty}

/-- Those who are to start a pump for the record under that key, or could not. -/
def filers (s : System α) (r : Ref) (k : Key) : Nat :=
  s.owing (·.filed? == some (r, k)) + s.pool.tally (·.filed? == some (r, k))

/-- Records are numbered by their places. -/
structure Numbered (s : System α) : Prop where
  nextId : s.nextId = s.records.length
  id : ∀ {r x}, s.record? r = some x → x.id = r
  entry : ∀ {k r}, (k, r) ∈ s.queue.entries → k.id = r
  removal : ∀ {call : Call α} {r k}, call ∈ s.calls → call.duty = .removing r k →
    k.id = r ∧ s.isFinal r = true
  filed : ∀ {r k}, 0 < s.filers r k → k.id = r

/-! ## Entries -/

/-- The new entries are those of pending records, under their keys, and who puts one in leaves the
records alone. -/
def EntersPending (s t : System α) : Prop :=
  ∀ e ∈ t.queue.entries, e ∈ s.queue.entries ∨
    (t.records = s.records ∧ ∃ r, s.isPending r = true ∧ e = (s.key r, r))

theorem EntersPending.of_subset (h : ∀ e ∈ t.queue.entries, e ∈ s.queue.entries) :
    EntersPending s t := fun e he => .inl (h e he)

theorem EntersPending.of_entries (h : t.queue.entries = s.queue.entries) : EntersPending s t :=
  .of_subset fun _ he => h ▸ he

theorem EntersPending.of_remove {k : Key} (h : t.queue = (s.queue.remove k).1) :
    EntersPending s t := by
  refine .of_subset fun e he => ?_
  rw [h, (DelayQueue.remove_entries ..).1] at he
  exact (List.mem_filter.mp he).1

theorem EntersPending.of_entriesWith {r : Ref}
    (h : t.queue.entries = DelayQueue.entriesWith (s.isPending r) (s.key r) r s.queue.entries)
    (hrecords : t.records = s.records) : EntersPending s t := by
  intro e he
  rw [h] at he
  rcases DelayQueue.mem_entriesWith he with ⟨hpending, rfl⟩ | he
  · exact .inr ⟨hrecords, r, hpending, rfl⟩
  · exact .inl he

theorem PumpMove.entersPending (h : PumpMove s t) : EntersPending s t := by
  cases h with
  | took _ hentries _ =>
    refine .of_subset fun e he => ?_
    rw [hentries]
    exact List.mem_cons_of_mem _ he
  | returned _ => exact .of_entriesWith (DelayQueue.putBack_entries ..).1 rfl
  | _ => exact .of_entries rfl

theorem CallMove.entersPending (h : CallMove s duty t duty') : EntersPending s t := by
  cases h with
  | offered hoffer => exact .of_entriesWith (DelayQueue.offer_eq_some hoffer).2.2.2.2 rfl
  | removed | retracted => exact .of_remove rfl
  | _ => exact .of_entries rfl

theorem Move.entersPending (h : Move s a t) : EntersPending s t := by
  cases h with
  | begun hmove => exact hmove.entersPending
  | called _ hmove | callRefused _ hmove => exact hmove.entersPending
  | pumped hmove | pumpIdled hmove | pumpFaulted hmove => exact hmove.entersPending
  | worked hmove =>
    cases hmove with
    | requeued _ hoffer => exact .of_entriesWith (DelayQueue.offer_eq_some hoffer).2.2.2.2 rfl
    | retracted _ => exact .of_remove rfl
    | _ => exact .of_entries rfl
  | _ => exact .of_entries rfl

/-! ## Calls -/

/-- A call is one from before, or it has just carried out a section. -/
theorem Move.call_cases {call : Call α} (h : Move s a t) (hcall : call ∈ t.calls) :
    call ∈ s.calls ∨ ∃ duty u, CallMove s duty u call.duty ∧ u.records = t.records := by
  cases h with
  | begun hmove =>
    rcases List.mem_append.mp hcall with hold | hnew
    · exact .inl (hmove.calls ▸ hold)
    · rw [List.mem_singleton.mp hnew]
      exact .inr ⟨_, _, hmove, rfl⟩
  | called _ hmove | callRefused _ hmove =>
    rcases List.mem_or_eq_of_mem_set hcall with hold | rfl
    · exact .inl (hmove.calls ▸ hold)
    · exact .inr ⟨_, _, hmove, rfl⟩
  | pumped hmove | pumpIdled hmove | pumpFaulted hmove => exact .inl (hmove.calls ▸ hcall)
  | worked hmove => exact .inl (hmove.calls ▸ hcall)
  | _ => exact .inl hcall

/-- A call that has an entry to take out has just cancelled its record. -/
theorem CallMove.removing {r : Ref} {k : Key} (h : CallMove s duty t duty')
    (hduty' : duty' = .removing r k) :
    ∃ x, s.record? r = some x ∧ k = x.key ∧
      t.record? r = some (x.finish .cancelled (.error .cancelled)) := by
  cases h with
  | asked mayInterrupt hduty =>
    rcases hduty with ⟨hfree, -⟩ | ⟨x, hx, hstate, hduty⟩
    · cases hfree.symm.trans hduty'
    · cases hduty.symm.trans hduty'
      refine ⟨x, hx, rfl, ?_⟩
      rw [record?_of_modify rfl, if_pos rfl, hx, Option.map_some, Record.cancel, hstate]
  | offered _ => split at hduty' <;> cases hduty'
  | closed => split at hduty' <;> cases hduty'
  | _ => cases hduty'

/-! ## Pumps to be started -/

/-- A call has a pump to start for a record when it has put it into the delay queue. -/
theorem CallMove.filed {r : Ref} {k : Key} (h : CallMove s duty t duty')
    (hduty' : duty'.filed? = some (r, k)) : duty.filed? = some (r, k) ∨ k = s.key r := by
  cases h with
  | offered _ =>
    split at hduty' <;> cases hduty'
    exact .inr rfl
  | closed => split at hduty' <;> cases hduty'
  | asked _ hduty => rcases hduty with ⟨rfl, -⟩ | ⟨_, _, _, rfl⟩ <;> cases hduty'
  | unlaunched _ _ => exact .inl hduty'
  | _ => cases hduty'

theorem WorkerMove.filed {r : Ref} {k : Key} (h : WorkerMove s a t)
    (hpos : 0 < t.pool.tally (·.filed? == some (r, k))) :
    0 < s.pool.tally (·.filed? == some (r, k)) ∨ k = s.key r := by
  have hgoes : ∀ {i : Nat} {old new : WorkerPhase}, s.pool.phase? i = some old →
      t.pool = s.pool.setPhase i new → new.filed? = none ∨ new.filed? = old.filed? →
      0 < s.pool.tally (·.filed? == some (r, k)) := by
    intro i old new hphase hpool hnew
    have htally := Pool.tally_setPhase hphase new (·.filed? == some (r, k))
    rw [hpool] at hpos
    rcases hnew with hnew | hnew
    · rw [hnew] at htally
      have hnone : (none == some (r, k)).toNat = 0 := rfl
      omega
    · rw [hnew] at htally
      omega
  cases h with
  | @looked i pool hlook =>
    obtain ⟨old, new, -, htally, hnew⟩ := Pool.look_tally hlook
    have hnone : (new.filed? == some (r, k)).toNat = 0 := by
      rcases hnew with ⟨-, rfl | rfl⟩ | ⟨r, -, rfl⟩ <;> rfl
    have hbalance := htally (·.filed? == some (r, k))
    have hafter : 0 < pool.tally (·.filed? == some (r, k)) := hpos
    exact .inl (by omega)
  | expired hexpire =>
    have hsame := (Pool.expire_tally hexpire).2 (·.filed? == some (r, k)) rfl rfl
    exact .inl (hsame ▸ hpos)
  | counted hcount =>
    have hsame := (Pool.countRun_tally hcount).2 (·.filed? == some (r, k)) (fun _ => rfl) rfl
    exact .inl (hsame ▸ hpos)
  | @requeued i r' queue needsPump hphase _ =>
    cases needsPump with
    | false => exact .inl (hgoes hphase rfl (.inl rfl))
    | true =>
      by_cases heq : some (r', s.key r') = some (r, k)
      · cases heq
        exact .inr rfl
      · have htally := Pool.tally_setPhase hphase (.startingPump r' (s.key r'))
          (·.filed? == some (r, k))
        have hother : (some (r', s.key r') == some (r, k)).toNat = 0 := by
          rw [beq_false_of_ne heq]
          rfl
        have hnew : (WorkerPhase.startingPump r' (s.key r')).filed? = some (r', s.key r') := rfl
        rw [hnew] at htally
        have hafter : 0 < (s.pool.setPhase i (.startingPump r' (s.key r'))).tally
          (·.filed? == some (r, k)) := hpos
        exact .inl (by omega)
  | unlaunched hphase _ _ => exact .inl (hgoes hphase rfl (.inr rfl))
  | retracted hphase => exact .inl (hgoes hphase rfl (.inl rfl))
  | rejected hphase => exact .inl (hgoes hphase rfl (.inl rfl))
  | began hphase _ _ => exact .inl (hgoes hphase rfl (.inl rfl))
  | passedOver hphase _ => exact .inl (hgoes hphase rfl (.inl rfl))
  | entered hphase _ => exact .inl (hgoes hphase rfl (.inl rfl))
  | spent hphase _ => exact .inl (hgoes hphase rfl (.inl rfl))
  | finished hphase _ => exact .inl (hgoes hphase rfl (.inl rfl))
  | rescheduled hphase _ _ => exact .inl (hgoes hphase rfl (.inl rfl))
  | refused hphase _ => exact .inl (hgoes hphase rfl (.inl rfl))
  | gaveUp hphase => exact .inl (hgoes hphase rfl (.inl rfl))
  | launched hphase _ _ => exact .inl (hgoes hphase rfl (.inl rfl))

theorem Move.filers_le {r : Ref} {k : Key} (h : Move s a t) (hpos : 0 < t.filers r k) :
    0 < s.filers r k ∨ k = s.key r := by
  have hcalm : CallsPool s t →
      t.pool.tally (·.filed? == some (r, k)) = s.pool.tally (·.filed? == some (r, k)) :=
    fun h => h.calm _ rfl rfl rfl
  rw [filers] at hpos ⊢
  rcases h.kinds with ⟨u, duty, duty', hcall, howes, ht⟩ | hpump | hworker | howner | ⟨now, rfl⟩
  · have hpool : t.pool = u.pool := by rw [ht]
    have htally := hcalm (by rw [CallsPool, hpool]; exact hcall.callsPool)
    have hcount := howes.count (·.filed? == some (r, k)) rfl
    cases hduty : duty'.filed? == some (r, k) with
    | false =>
      rw [hduty, Bool.toNat_false] at hcount
      exact .inl (by omega)
    | true =>
      refine (hcall.filed (eq_of_beq hduty)).imp_left fun hbefore => ?_
      have hle := howes.le (f := (·.filed? == some (r, k))) rfl
      rw [hbefore, beq_self_eq_true, Bool.toNat_true] at hle
      omega
  · rw [owing, hpump.calls, hcalm hpump.callsPool] at hpos
    exact .inl hpos
  · rw [owing, hworker.calls] at hpos
    rcases Nat.eq_zero_or_pos (t.pool.tally (·.filed? == some (r, k))) with hzero | hfiled
    · exact .inl (by rw [owing]; omega)
    · exact (hworker.filed hfiled).imp_left fun h => Nat.lt_of_lt_of_le h (Nat.le_add_left _ _)
  · rw [hcalm howner.callsPool] at hpos
    cases howner <;> exact .inl hpos
  · exact .inl hpos

/-! ## Numbers -/

theorem Numbered.key (h : Numbered s) (r : Ref) : (s.key r).id = r := by
  rw [System.key]
  cases hx : s.record? r with
  | none => rfl
  | some x => exact h.id hx

/-- Two entries with the same key are of the same record. -/
theorem Numbered.entry_unique (h : Numbered s) {r : Ref} {k : Key} (hk : k.id = r) :
    ∀ e ∈ s.queue.entries, e.1 = k → e.2 = r := by
  rintro ⟨k', r'⟩ he rfl
  exact (h.entry he).symm.trans hk

theorem Numbered.move (hs : Numbered s) (h : Move s a t) : Numbered t where
  nextId := by
    have := h.keeps.counted
    have := hs.nextId
    omega
  id := by
    intro r y hy
    cases hx : s.record? r with
    | none =>
      have hfresh := h.keeps.made hy hx
      rw [hfresh.id, hs.nextId, hfresh.place]
    | some x =>
      obtain ⟨y', hy', hkeeps⟩ := h.keeps.kept hx
      rw [hy] at hy'
      cases hy'
      rw [hkeeps.id, hs.id hx]
  entry := by
    intro k r he
    rcases h.entersPending _ he with hold | ⟨-, r', hpending, heq⟩
    · exact hs.entry hold
    · cases heq
      exact hs.key _
  removal := by
    intro call r k hcall hduty
    rcases h.call_cases hcall with hold | ⟨_, u, hmove, hrecords⟩
    · obtain ⟨hk, hfinal⟩ := hs.removal hold hduty
      exact ⟨hk, h.keeps.isFinal hfinal⟩
    · obtain ⟨x, hx, rfl, hcancelled⟩ := hmove.removing hduty
      rw [record?, hrecords] at hcancelled
      exact ⟨hs.id hx, isFinal_iff.mpr ⟨_, hcancelled, rfl⟩⟩
  filed := by
    intro r k hpos
    rcases h.filers_le hpos with hold | rfl
    · exact hs.filed hold
    · exact hs.key r

theorem Reachable.numbered (h : Reachable s) : Numbered s := by
  refine h.of_moves (P := Numbered) ?_ ?_ ?_
  · intro u
    exact propext ⟨fun h => ⟨h.nextId, h.id, h.entry, h.removal, h.filed⟩,
      fun h => ⟨h.nextId, h.id, h.entry, h.removal, h.filed⟩⟩
  · intro host name config clockEnd now
    exact ⟨rfl, nofun, nofun, nofun, nofun⟩
  · intro s t a _ hs hmove
    exact hs.move hmove

end System

end TaskScheduler
