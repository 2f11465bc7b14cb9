import TaskScheduler.System
import TaskScheduler.Proofs.Tally

/-
  The service without its books, and the operations on records as changes of one entry.

  `core` drops what is only counted or reported. What is shown about a service here never depends on
  that, so a section is described up to `core`. `giveUp_core`, `reject_core`, `cancelRecord_core`
  and so on: every operation on a record is the matching function of `Record`, applied at its place
  in the list of records, and changes nothing else.
-/
namespace TaskScheduler

theorem modify_congr_of_getElem? {β : Type} {l : List β} {i : Nat} {g g' : β → β}
    (h : ∀ a, l[i]? = some a → g a = g' a) : l.modify i g = l.modify i g' := by
  cases hi : l[i]? with
  | none =>
    have hle := List.getElem?_eq_none_iff.mp hi
    rw [List.modify_eq_self hle, List.modify_eq_self hle]
  | some a => rw [modify_eq_set_of_getElem? hi, modify_eq_set_of_getElem? hi, h a hi]

theorem modify_eq_self_of_getElem? {β : Type} {l : List β} {i : Nat} {g : β → β}
    (h : ∀ a, l[i]? = some a → g a = a) : l.modify i g = l := by
  have hid : l.modify i g = l.modify i id := modify_congr_of_getElem? h
  rw [hid, List.modify_id]

namespace System

variable {α : Type} {s t : System α}

/-- The service without what is only counted or reported. -/
def core (s : System α) : System α := { s with metrics := {}, events := [], pumpStarts := 0 }

/-- A property that does not depend on the books holds of services that are alike without them. -/
theorem of_core {P : System α → Prop} (hP : ∀ u : System α, P u = P u.core)
    (h : s.core = t.core) (ht : P t) : P s := by
  rw [hP s, h, ← hP t]
  exact ht

/-! ## Records -/

theorem record?_modify (r r' : Ref) (f : Record α → Record α) :
    (s.records.modify r f)[r']? = (s.record? r').map fun rec => if r = r' then f rec else rec :=
  List.getElem?_modify f r s.records r'

theorem state?_eq_some {r : Ref} {state : RecordState} :
    s.state? r = some state ↔ ∃ x, s.record? r = some x ∧ x.state = state := by
  rw [state?, Option.map_eq_some_iff]

theorem isPending_iff {r : Ref} :
    s.isPending r = true ↔ ∃ x, s.record? r = some x ∧ x.state = .pending := by
  unfold isPending state?
  cases hr : s.record? r <;> simp

theorem isFinal_iff {r : Ref} :
    s.isFinal r = true ↔ ∃ x, s.record? r = some x ∧ x.isFinal = true := by
  unfold System.isFinal state?
  cases hr : s.record? r <;> simp [Record.isFinal]

theorem isPending_congr {r : Ref} (h : t.records = s.records) :
    t.isPending r = s.isPending r := by
  rw [isPending, isPending, state?, state?, record?, record?, h]

theorem isPending_of_final (h : s.isFinal r = true) : s.isPending r = false := by
  obtain ⟨x, hx, hfinal⟩ := isFinal_iff.mp h
  cases hp : s.isPending r with
  | false => rfl
  | true =>
    obtain ⟨y, hy, hstate⟩ := isPending_iff.mp hp
    rw [hx] at hy
    cases hy
    rw [Record.isFinal, hstate] at hfinal
    cases hfinal

/-- A record is changed at its place, and no other. -/
theorem record?_of_modify {r : Ref} {g : Record α → Record α}
    (h : t.records = s.records.modify r g) (r' : Ref) :
    t.record? r' = if r = r' then (s.record? r').map g else s.record? r' := by
  rw [record?, h, record?_modify]
  split
  · rfl
  · exact Option.map_id_apply

theorem isPending_of_modify {r' : Ref} {g : Record α → Record α}
    (h : t.records = s.records.modify r' g) (hg : ∀ x, (g x).state ≠ .pending) :
    t.isPending r' = false := by
  cases hp : t.isPending r' with
  | false => rfl
  | true =>
    obtain ⟨y, hy, hstate⟩ := isPending_iff.mp hp
    rw [record?_of_modify h, if_pos rfl, Option.map_eq_some_iff] at hy
    obtain ⟨x, -, rfl⟩ := hy
    exact absurd hstate (hg x)

theorem state?_of_modify {r : Ref} {g : Record α → Record α}
    (h : t.records = s.records.modify r g) (hg : ∀ x, (g x).state = x.state) (r' : Ref) :
    t.state? r' = s.state? r' := by
  rw [state?, state?, record?_of_modify h]
  split
  · rw [Option.map_map]
    exact congrArg (Option.map · _) (funext hg)
  · rfl

theorem update_core (r : Ref) (f : Record α → Record α) :
    (s.update r f).core = ({ s with records := s.records.modify r f } : System α).core := rfl

theorem update_congr (h : s.core = t.core) (r : Ref) (f : Record α → Record α) :
    (s.update r f).core = (t.update r f).core := by
  have hbooks := congrArg System.records h
  have hrecords : s.records = t.records := hbooks
  rw [update_core, update_core, hrecords]
  exact congrArg (fun u : System α => { u with records := t.records.modify r f }) h

/-- An operation that changes one record, if it is there. -/
theorem update_const_core {r : Ref} {record : Record α} (h : s.record? r = some record)
    (f : Record α → Record α) :
    (s.update r fun _ => f record).core = (s.update r f).core := by
  have hmod : s.records.modify r (fun _ => f record) = s.records.modify r f := by
    apply modify_congr_of_getElem?
    intro a ha
    rw [record?, ha] at h
    rw [Option.some.inj h]
  rw [update_core, update_core, hmod]

theorem update_same_core {r : Ref} {record : Record α} (h : s.record? r = some record)
    {f : Record α → Record α} (hf : f record = record) : (s.update r f).core = s.core := by
  have hmod : s.records.modify r f = s.records := by
    apply modify_eq_self_of_getElem?
    intro a ha
    rw [record?, ha] at h
    rw [Option.some.inj h, hf]
  rw [update_core, hmod]

theorem update_absent_core {r : Ref} (h : s.record? r = none) (f : Record α → Record α) :
    (s.update r f).core = s.core := by
  rw [update_core, List.modify_eq_self (List.getElem?_eq_none_iff.mp h)]

theorem giveUp_core (s : System α) (r : Ref) :
    (s.giveUp r).1.core = (s.update r (·.giveUp.1)).core := by
  unfold giveUp
  cases hr : s.record? r with
  | none => exact (update_absent_core hr _).symm
  | some record =>
    cases hstate : record.state with
    | pending =>
      rw [← update_const_core hr]
      simp only [Record.giveUp, hstate]
      rfl
    | _ =>
      have hsame : record.giveUp = (record, false) := by unfold Record.giveUp; rw [hstate]
      simp only [hsame]
      exact (update_same_core hr (by rw [hsame])).symm

theorem reject_core (s : System α) (r : Ref) (reason : String) :
    (s.reject r reason).core = (s.update r fun record => (record.reject reason).1).core := by
  unfold reject
  cases hr : s.record? r with
  | none => exact (update_absent_core hr _).symm
  | some record =>
    cases hstate : record.state with
    | pending =>
      rw [← update_const_core hr fun record => (record.reject reason).1]
      simp only [Record.reject, hstate]
      rfl
    | _ =>
      have hsame : record.reject reason = (record, false) := by unfold Record.reject; rw [hstate]
      simp only [hsame]
      exact (update_same_core hr (by rw [hsame])).symm

theorem cancelRecord_core (s : System α) (r : Ref) (mayInterrupt : Bool) :
    (s.cancelRecord r mayInterrupt).1.core =
      (s.update r fun record => (record.cancel mayInterrupt).1).core := by
  unfold cancelRecord
  cases hr : s.record? r with
  | none => exact (update_absent_core hr _).symm
  | some record => exact update_const_core hr fun record => (record.cancel mayInterrupt).1

theorem cancel_key {record record' : Record α} {mayInterrupt : Bool} {k : Key}
    (h : record.cancel mayInterrupt = (record', ⟨true, some k⟩)) :
    record.state = .pending ∧ k = record.key := by
  unfold Record.cancel at h
  split at h
  next hstate =>
    cases h
    exact ⟨hstate, rfl⟩
  next => split at h <;> cases h
  next => cases h

/-- The key that a cancellation answers is that of a record that was pending. -/
theorem cancelRecord_key {r : Ref} {mayInterrupt : Bool} {k : Key} {t : System α}
    (h : s.cancelRecord r mayInterrupt = (t, ⟨true, some k⟩)) :
    ∃ record, s.record? r = some record ∧ record.state = .pending ∧ k = record.key := by
  unfold cancelRecord at h
  split at h
  next record hr =>
    obtain ⟨hstate, hkey⟩ := cancel_key (Prod.ext rfl (Prod.mk.inj h).2)
    exact ⟨record, hr, hstate, hkey⟩
  next => cases h

/-- A pending record is always cancelled, and the answer has its key. -/
theorem cancelRecord_pending {r : Ref} (h : s.isPending r = true) (mayInterrupt : Bool) :
    (s.cancelRecord r mayInterrupt).2 = ⟨true, some (s.key r)⟩ := by
  obtain ⟨record, hr, hstate⟩ := isPending_iff.mp h
  rw [cancelRecord, key, hr]
  simp only [Record.cancel, hstate]
  rfl

theorem enterBody_core (s : System α) (r : Ref) :
    (s.enterBody r).1.core = (s.update r (·.enterBody.1)).core := by
  unfold enterBody
  cases hr : s.record? r with
  | none => exact (update_absent_core hr _).symm
  | some record => exact update_const_core hr (·.enterBody.1)

theorem completeRun_core (s : System α) (r : Ref) (result : BodyResult α) :
    (s.completeRun r result).1.core =
      (s.update r fun record => (record.complete s.clockEnd s.now result).1).core := by
  unfold completeRun
  cases hr : s.record? r with
  | none => exact (update_absent_core hr _).symm
  | some record =>
    rw [← update_const_core hr fun record => (record.complete s.clockEnd s.now result).1]
    rcases hc : record.complete s.clockEnd s.now result with ⟨record', after, finish⟩
    cases finish <;> simp only [hc] <;> rfl

theorem beginRun_cases (s : System α) (r : Ref) :
    (s.beginRun r = (s, false) ∧ s.isPending r = false) ∨
      ∃ record, s.record? r = some record ∧ record.state = .pending ∧ (s.beginRun r).2 = true ∧
        (s.beginRun r).1.core =
          (s.update r fun record => { record with state := .running }).core := by
  unfold beginRun isPending state?
  cases hr : s.record? r with
  | none => exact .inl ⟨rfl, rfl⟩
  | some record =>
    cases hstate : record.state with
    | pending =>
      refine .inr ⟨record, rfl, hstate, ?_, ?_⟩
      · simp [Record.beginRun, hstate]
      · rw [← update_const_core hr fun record => { record with state := .running }]
        simp only [Option.bind_some, Record.beginRun, hstate]
        rfl
    | _ =>
      refine .inl ⟨?_, ?_⟩
      · simp [Record.beginRun, hstate]
      · simp [hstate]

/-- A refused start only tells the delay queue that there is no consumer. -/
theorem refusePump_eq_some (h : s.refusePump = some t) :
    s.pump = none ∧ s.pumpNameFault? = none ∧ t = { s with queue := s.queue.releaseConsumer } := by
  unfold refusePump at h
  split at h
  next hcan =>
    rw [Bool.and_eq_true, Option.isNone_iff_eq_none, Option.isNone_iff_eq_none] at hcan
    exact ⟨hcan.1, hcan.2, (Option.some.inj h).symm⟩
  next => cases h

end System

end TaskScheduler
