import TaskScheduler.DelayQueue
import TaskScheduler.Proofs.Tally

/-
  What is in the delay queue.

  `holds q r` counts the entries of a record. `holds_insertEntry`: an entry that is put in is there
  afterwards, at most one more than before, and the other records keep theirs, if no two records
  share a key. `offer_eq_some`, `remove_entries`: what the operations of the queue come to.
  `Ordered`: the entries are in the order of their keys.
-/
namespace TaskScheduler

namespace Key

variable {a b c : Key}

theorem lt_irrefl (a : Key) : ¬a < a := by
  rintro (h | ⟨-, h⟩)
  · exact Int.lt_irrefl _ h
  · exact Nat.lt_irrefl _ h

theorem lt_trans (h : a < b) (h' : b < c) : a < c := by
  rcases h with h | ⟨heq, h⟩
  · rcases h' with h' | ⟨heq', -⟩
    · exact .inl (Int.lt_trans h h')
    · exact .inl (heq' ▸ h)
  · rcases h' with h' | ⟨heq', h'⟩
    · exact .inl (heq ▸ h')
    · exact .inr ⟨heq.trans heq', Nat.lt_trans h h'⟩

theorem lt_of_not_lt (h : ¬a < b) (hne : a ≠ b) : b < a := by
  rcases Int.lt_trichotomy a.trigger b.trigger with hlt | heq | hgt
  · exact absurd (.inl hlt) h
  · rcases Nat.lt_trichotomy a.id b.id with hlt | hid | hgt
    · exact absurd (.inr ⟨heq, hlt⟩) h
    · rcases a with ⟨trigger, id⟩
      cases heq
      cases hid
      exact absurd rfl hne
    · exact .inr ⟨heq.symm, hgt⟩
  · exact .inl hgt

end Key

namespace DelayQueue

variable {q q' : DelayQueue} {k : Key} {r r' : Ref}

/-- The number of entries of a record. -/
def holds (q : DelayQueue) (r : Ref) : Nat := q.entries.countP fun e => e.2 == r

theorem holds_eq_zero_iff : q.holds r = 0 ↔ ∀ k, (k, r) ∉ q.entries := by
  rw [holds, List.countP_eq_zero]
  constructor
  · exact fun h k he => h (k, r) he (beq_self_eq_true r)
  · rintro h ⟨k, r'⟩ he heq
    obtain rfl : r' = r := eq_of_beq heq
    exact h k he

theorem mem_insertEntry {e : Key × Ref} {l : List (Key × Ref)} (h : e ∈ insertEntry k r l) :
    e = (k, r) ∨ e ∈ l := by
  induction l with
  | nil => exact .inl (List.mem_singleton.mp h)
  | cons e' rest ih =>
    simp only [insertEntry] at h
    split at h
    · exact List.mem_cons.mp h
    · split at h
      · exact (List.mem_cons.mp h).imp id (List.mem_cons_of_mem _)
      · rcases List.mem_cons.mp h with rfl | h
        · exact .inr List.mem_cons_self
        · exact (ih h).imp id (List.mem_cons_of_mem _)

theorem mem_insertEntry_self (k : Key) (r : Ref) (l : List (Key × Ref)) :
    (k, r) ∈ insertEntry k r l := by
  induction l with
  | nil => exact List.mem_singleton_self _
  | cons e rest ih =>
    simp only [insertEntry]
    split
    · exact List.mem_cons_self
    · split
      · exact List.mem_cons_self
      · exact List.mem_cons_of_mem _ ih

/-- An entry gives way only to one of the same record. -/
theorem countP_insertEntry {l : List (Key × Ref)} (hkeys : ∀ e ∈ l, e.1 = k → e.2 = r) (r' : Ref) :
    (insertEntry k r l).countP (fun e => e.2 == r') ≤
        l.countP (fun e => e.2 == r') + (r == r').toNat ∧
      l.countP (fun e => e.2 == r') ≤ (insertEntry k r l).countP (fun e => e.2 == r') ∧
      (r == r').toNat ≤ (insertEntry k r l).countP (fun e => e.2 == r') := by
  induction l with
  | nil =>
    simp only [insertEntry, List.countP_cons, List.countP_nil]
    cases r == r' <;> simp
  | cons e rest ih =>
    obtain ⟨k', r''⟩ := e
    have hrest := ih fun e he => hkeys e (List.mem_cons_of_mem _ he)
    simp only [insertEntry]
    split
    · simp only [List.countP_cons]
      cases r == r' <;> simp
    · split
      next hsame =>
        obtain rfl : r'' = r := hkeys (k', r'') List.mem_cons_self hsame.symm
        simp only [List.countP_cons]
        cases r'' == r' <;> simp
      next =>
        simp only [List.countP_cons]
        omega

/-- The entries after a record has been offered, which is put in only if it is pending. -/
def entriesWith (pending : Bool) (k : Key) (r : Ref) (l : List (Key × Ref)) : List (Key × Ref) :=
  if pending then insertEntry k r l else l

theorem mem_entriesWith {pending : Bool} {e : Key × Ref} {l : List (Key × Ref)}
    (h : e ∈ entriesWith pending k r l) : (pending = true ∧ e = (k, r)) ∨ e ∈ l := by
  unfold entriesWith at h
  split at h
  next hp => exact (mem_insertEntry h).imp (⟨hp, ·⟩) id
  next => exact .inr h

theorem offer_eq_some {pending needsPump : Bool}
    (h : q.offer pending k r = some (q', needsPump)) :
    q.closed = false ∧ q'.closed = false ∧ q'.consumerActive = true ∧
      needsPump = !q.consumerActive ∧ q'.entries = entriesWith pending k r q.entries := by
  unfold offer at h
  split at h
  next => cases h
  next hopen =>
    cases h
    have hopen' : q.closed = false := by simpa using hopen
    cases pending <;> exact ⟨hopen', hopen', rfl, rfl, rfl⟩

/-- A closed queue takes no offer. -/
theorem offer_ne_some {pending needsPump : Bool} (hclosed : q.closed = true) :
    q.offer pending k r ≠ some (q', needsPump) := by
  intro hoffer
  rw [(offer_eq_some hoffer).1] at hclosed
  cases hclosed

theorem putBack_entries (q : DelayQueue) (pending : Bool) (k : Key) (r : Ref) :
    (q.putBack pending k r).entries = entriesWith pending k r q.entries ∧
      (q.putBack pending k r).closed = q.closed ∧
      (q.putBack pending k r).consumerActive = q.consumerActive := by
  cases pending <;> exact ⟨rfl, rfl, rfl⟩

theorem remove_entries (q : DelayQueue) (k : Key) :
    (q.remove k).1.entries = q.entries.filter (·.1 ≠ k) ∧ (q.remove k).1.closed = q.closed ∧
      (q.remove k).1.consumerActive = q.consumerActive := by
  unfold remove
  split
  · exact ⟨rfl, rfl, rfl⟩
  next hnone =>
    refine ⟨?_, rfl, rfl⟩
    refine (List.filter_eq_self.mpr fun e he => ?_).symm
    simp only [List.any_eq_true, decide_eq_true_eq, not_exists, not_and] at hnone
    exact decide_eq_true (hnone e he)

theorem remove_holds_le (q : DelayQueue) (k : Key) (r : Ref) :
    (q.remove k).1.holds r ≤ q.holds r := by
  rw [holds, (remove_entries q k).1]
  exact List.Sublist.countP_le List.filter_sublist

/-- An entry that is found under its key is gone afterwards. -/
theorem remove_holds_lt (hkeys : ∀ e ∈ q.entries, e.1 = k → e.2 = r)
    (hfound : (q.remove k).2 = true) : (q.remove k).1.holds r < q.holds r := by
  have hentry : (k, r) ∈ q.entries := by
    unfold remove at hfound
    split at hfound
    next hany =>
      obtain ⟨⟨k', r'⟩, he, hk⟩ := List.any_eq_true.mp hany
      obtain rfl : k' = k := of_decide_eq_true hk
      obtain rfl : r' = r := hkeys _ he rfl
      exact he
    next => cases hfound
  have hsplit : q.holds r = (q.remove k).1.holds r +
      q.entries.countP fun e => e.2 == r && decide (e.1 = k) := by
    rw [holds, holds, (remove_entries q k).1, List.countP_filter]
    refine countP_eq_add (fun e => ?_) q.entries
    by_cases hk : e.1 = k <;> simp [hk]
  have hpos : 0 < q.entries.countP fun e => e.2 == r && decide (e.1 = k) :=
    List.countP_pos_iff.mpr ⟨_, hentry, by simp⟩
  omega

/-- Taking an entry out by its key leaves the entries of other records alone. -/
theorem remove_holds (hkeys : ∀ e ∈ q.entries, e.1 = k → e.2 ≠ r) :
    (q.remove k).1.holds r = q.holds r := by
  rw [holds, holds, (remove_entries q k).1, List.countP_filter]
  refine List.countP_congr fun e he => ?_
  have := hkeys e he
  simp only [Bool.and_eq_true, beq_iff_eq, decide_eq_true_eq]
  constructor
  · exact And.left
  · exact fun hr => ⟨hr, fun hk => this hk hr⟩

/-! ## Order -/

/-- The entries are in the order of their keys, and no two have the same one. -/
def Ordered (l : List (Key × Ref)) : Prop := l.Pairwise fun e e' => e.1 < e'.1

theorem ordered_insertEntry {l : List (Key × Ref)} (h : Ordered l) :
    Ordered (insertEntry k r l) := by
  induction l with
  | nil => exact List.pairwise_singleton _ _
  | cons e rest ih =>
    obtain ⟨hfirst, hrest⟩ := List.pairwise_cons.mp h
    simp only [insertEntry]
    split
    next hlt =>
      refine List.pairwise_cons.mpr ⟨fun e' he => ?_, h⟩
      rcases List.mem_cons.mp he with rfl | he
      · exact hlt
      · exact Key.lt_trans hlt (hfirst e' he)
    next hnot =>
      split
      next hsame =>
        subst hsame
        exact List.pairwise_cons.mpr ⟨hfirst, hrest⟩
      next hne =>
        refine List.pairwise_cons.mpr ⟨fun e' he => ?_, ih hrest⟩
        rcases mem_insertEntry he with rfl | he
        · exact Key.lt_of_not_lt hnot hne
        · exact hfirst e' he

theorem length_insertEntry (k : Key) (r : Ref) (l : List (Key × Ref)) :
    (insertEntry k r l).length = l.length ∨ (insertEntry k r l).length = l.length + 1 := by
  induction l with
  | nil => exact .inr rfl
  | cons e rest ih =>
    simp only [insertEntry]
    split
    · exact .inr rfl
    · split
      · exact .inl rfl
      · simpa using ih

theorem length_entriesWith_le (pending : Bool) (k : Key) (r : Ref) (l : List (Key × Ref)) :
    (entriesWith pending k r l).length ≤ l.length + 1 := by
  cases pending with
  | false => exact Nat.le_succ _
  | true =>
    rcases length_insertEntry k r l with heq | heq
    · exact heq ▸ Nat.le_succ _
    · exact Nat.le_of_eq heq

theorem ordered_entriesWith {pending : Bool} {l : List (Key × Ref)} (h : Ordered l) :
    Ordered (entriesWith pending k r l) := by
  cases pending with
  | true => exact ordered_insertEntry h
  | false => exact h

theorem ordered_remove (h : Ordered q.entries) (k : Key) : Ordered (q.remove k).1.entries := by
  rw [(remove_entries ..).1]
  exact List.Pairwise.sublist List.filter_sublist h

/-- No entry comes before the first one. -/
theorem Ordered.first {k' : Key} {rest : List (Key × Ref)} (h : Ordered ((k, r) :: rest))
    (he : (k', r') ∈ (k, r) :: rest) : ¬k' < k := by
  intro hlt
  rcases List.mem_cons.mp he with heq | he
  · cases heq
    exact Key.lt_irrefl k hlt
  · exact Key.lt_irrefl k (Key.lt_trans ((List.pairwise_cons.mp h).1 _ he) hlt)

end DelayQueue

end TaskScheduler
