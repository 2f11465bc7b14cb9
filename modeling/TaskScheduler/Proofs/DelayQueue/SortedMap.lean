import Mathlib
import TaskScheduler.Proofs.DelayQueue.Operations

/-
  The delay queue is a finite map that is sorted by its keys.

  `SortedMap` has the operations of the queue, carried out on a finite map. `Represents q m` says
  that the entries of `q` are those of `m`, in the order of the keys; `Acts.represents` that every
  operation keeps it and gives the same answer. An ordered list is determined by its members
  (`eq_toList_of_ordered`), so what is to be shown of the entries is only which ones there are.
  `balance`: no entry is lost, and none goes out twice.
-/
namespace TaskScheduler

namespace Key

/-- The order of the keys, as the result of a comparison. -/
def order : Key → Key → Ordering := compareLex (compareOn Key.trigger) (compareOn Key.id)

instance : Std.TransCmp order :=
  inferInstanceAs (Std.TransCmp (compareLex (compareOn Key.trigger) (compareOn Key.id)))

theorem order_eq_lt {a b : Key} : order a b = .lt ↔ a < b := by
  rw [lt_def, order, compareLex, Ordering.then_eq_lt]
  simp only [compareOn, Int.compare_eq_lt, Nat.compare_eq_lt, Std.compare_eq_iff_eq]

theorem order_eq_eq {a b : Key} : order a b = .eq ↔ a = b := by
  rw [order, compareLex, Ordering.then_eq_eq]
  simp only [compareOn, Std.compare_eq_iff_eq]
  cases a
  cases b
  simp

instance : Std.LawfulEqCmp order where
  eq_of_compare := order_eq_eq.mp

end Key

/-- A finite map, sorted by its keys, with the operations of a delay queue. -/
structure SortedMap where
  map : Std.ExtTreeMap Key Ref Key.order := ∅
  closed : Bool := false
  consumerActive : Bool := false

namespace SortedMap

/-- The smallest key, with what is under it. -/
def first? (m : SortedMap) : Option (Key × Ref) :=
  m.map.minKey?.bind fun k => m.map[k]?.map (k, ·)

def putIf (m : SortedMap) (pending : Bool) (k : Key) (r : Ref) : SortedMap :=
  if pending then { m with map := m.map.insert k r } else m

/-- An operation of the delay queue, carried out on the map. -/
def act (m : SortedMap) : DelayQueue.Op → SortedMap × DelayQueue.Answer
  | .offer pending k r =>
    if m.closed then (m, .offered none)
    else ({ m.putIf pending k r with consumerActive := true }, .offered (some !m.consumerActive))
  | .putBack pending k r => (m.putIf pending k r, .done)
  | .remove k => ({ m with map := m.map.erase k }, .removed (m.map.contains k))
  | .look now idleElapsed =>
    match m.first? with
    | some (k, r) =>
      if k.trigger ≤ now ∨ m.closed then
        ({ m with map := m.map.erase k }, .delivered (some (.ready r (now < k.trigger))))
      else (m, .delivered none)
    | none =>
      if m.closed then ({ m with consumerActive := false }, .delivered (some .closed))
      else if idleElapsed then ({ m with consumerActive := false }, .delivered (some .idle))
      else (m, .delivered none)
  | .untilDue now => (m, .due (m.first?.map fun (k, _) => elapsedSince k.trigger now))
  | .close => ({ m with closed := true, consumerActive := true }, .closed !m.consumerActive)
  | .releaseConsumer => ({ m with consumerActive := false }, .done)

/-- The map after some operations. -/
def after (m : SortedMap) (ops : List DelayQueue.Op) : SortedMap :=
  ops.foldl (fun m op => (m.act op).1) m

/-- The answers of some operations. -/
def answers (m : SortedMap) : List DelayQueue.Op → List DelayQueue.Answer
  | [] => []
  | op :: rest => (m.act op).2 :: answers (m.act op).1 rest

end SortedMap

namespace DelayQueue

variable {q q' : DelayQueue} {m : SortedMap} {ops : List Op} {op : Op} {k : Key} {r : Ref}
  {e : Key × Ref} {l : List (Key × Ref)} {map : Std.ExtTreeMap Key Ref Key.order}

/-! ## Lists in the order of their keys -/

theorem Ordered.nodup (h : Ordered l) : l.Nodup := by
  refine List.Pairwise.imp (fun {e e'} hlt heq => ?_) h
  subst heq
  exact Key.lt_irrefl _ hlt

theorem Ordered.count_eq (h : Ordered l) (e : Key × Ref) : l.count e = (l.contains e).toNat := by
  rw [h.nodup.count]
  by_cases he : e ∈ l <;> simp [he]

theorem Ordered.tail {e : Key × Ref} (h : Ordered (e :: l)) : Ordered l :=
  (List.pairwise_cons.mp h).2

/-- Which entries there are, once one has been put in. -/
theorem Ordered.mem_insertEntry_iff (h : Ordered l) :
    e ∈ insertEntry k r l ↔ e = (k, r) ∨ (e ∈ l ∧ e.1 ≠ k) := by
  induction l with
  | nil => simp [insertEntry]
  | cons e' rest ih =>
    obtain ⟨k', r'⟩ := e'
    obtain ⟨hfirst, hrest⟩ := List.pairwise_cons.mp h
    simp only [insertEntry]
    split
    next hlt =>
      have hother : ∀ e ∈ (k', r') :: rest, e.1 ≠ k := by
        intro e he heq
        rcases List.mem_cons.mp he with rfl | he
        · exact Key.lt_irrefl k (heq ▸ hlt)
        · exact Key.lt_irrefl k (Key.lt_trans hlt (heq ▸ hfirst e he))
      rw [List.mem_cons]
      exact or_congr_right ⟨fun he => ⟨he, hother e he⟩, And.left⟩
    next hnot =>
      split
      next hsame =>
        subst hsame
        have hother : ∀ e ∈ rest, e.1 ≠ k :=
          fun e he heq => Key.lt_irrefl k (heq ▸ hfirst e he)
        rw [List.mem_cons, List.mem_cons]
        refine or_congr_right ⟨fun he => ⟨.inr he, hother e he⟩, ?_⟩
        rintro ⟨rfl | he, hne⟩
        · exact absurd rfl hne
        · exact he
      next hne =>
        rw [List.mem_cons, List.mem_cons, ih hrest]
        constructor
        · rintro (rfl | rfl | ⟨he, hk⟩)
          · exact .inr ⟨.inl rfl, Ne.symm hne⟩
          · exact .inl rfl
          · exact .inr ⟨.inr he, hk⟩
        · rintro (rfl | ⟨rfl | he, hk⟩)
          · exact .inr (.inl rfl)
          · exact .inl rfl
          · exact .inr (.inr ⟨he, hk⟩)

/-- The first entry is the only one with its key. -/
theorem Ordered.mem_tail_iff (h : Ordered ((k, r) :: l)) :
    e ∈ l ↔ e ∈ (k, r) :: l ∧ e.1 ≠ k := by
  have hfirst := (List.pairwise_cons.mp h).1
  constructor
  · exact fun he => ⟨List.mem_cons_of_mem _ he, fun heq => Key.lt_irrefl k (heq ▸ hfirst e he)⟩
  · rintro ⟨he, hne⟩
    rcases List.mem_cons.mp he with rfl | he
    · exact absurd rfl hne
    · exact he

/-- A list in the order of its keys is determined by its members. -/
theorem eq_toList_of_ordered (h : Ordered l) (hmem : ∀ k r, (k, r) ∈ l ↔ map[k]? = some r) :
    l = map.toList := by
  have hordered : Ordered map.toList :=
    Std.ExtTreeMap.ordered_keys_toList.imp Key.order_eq_lt.mp
  refine List.Perm.eq_of_pairwise ?_ h hordered ?_
  · exact fun e e' _ _ hlt hgt => absurd (Key.lt_trans hlt hgt) (Key.lt_irrefl _)
  · refine (List.perm_ext_iff_of_nodup h.nodup hordered.nodup).mpr fun e => ?_
    rw [hmem, ← Std.ExtTreeMap.mem_toList_iff_getElem?_eq_some]

/-! ## The queue and the map -/

/-- The entries of the queue are those of the map, in the order of the keys. -/
structure Represents (q : DelayQueue) (m : SortedMap) : Prop where
  entries : q.entries = m.map.toList
  closed : q.closed = m.closed
  consumerActive : q.consumerActive = m.consumerActive

theorem represents_empty : Represents {} {} where
  entries := (Std.ExtTreeMap.toList_eq_nil_iff.mpr rfl).symm
  closed := rfl
  consumerActive := rfl

theorem Represents.ordered (h : Represents q m) : Ordered q.entries := by
  rw [h.entries]
  exact Std.ExtTreeMap.ordered_keys_toList.imp Key.order_eq_lt.mp

theorem Represents.mem_iff (h : Represents q m) : (k, r) ∈ q.entries ↔ m.map[k]? = some r := by
  rw [h.entries, Std.ExtTreeMap.mem_toList_iff_getElem?_eq_some]

theorem Represents.first (h : Represents q m) : m.first? = q.entries.head? := by
  have hmin : m.map.minKey? = (q.entries.map (·.1)).head? := by
    rw [Std.ExtTreeMap.minKey?_eq_head?_keys, ← Std.ExtTreeMap.map_fst_toList_eq_keys, h.entries]
  rw [SortedMap.first?, hmin]
  cases hentries : q.entries with
  | nil => rfl
  | cons e rest =>
    obtain ⟨k, r⟩ := e
    have hr : m.map[k]? = some r := h.mem_iff.mp (hentries ▸ List.mem_cons_self)
    simp [hr]

theorem Represents.insert (h : Represents q m) (pending : Bool) (k : Key) (r : Ref) :
    entriesWith pending k r q.entries = (m.putIf pending k r).map.toList := by
  cases pending with
  | false => exact h.entries
  | true =>
    refine eq_toList_of_ordered (ordered_insertEntry h.ordered) fun k' r' => ?_
    show (k', r') ∈ insertEntry k r q.entries ↔ (m.map.insert k r)[k']? = some r'
    rw [h.ordered.mem_insertEntry_iff, h.mem_iff, Std.ExtTreeMap.getElem?_insert, Prod.mk.injEq]
    by_cases hk : k = k'
    · subst hk
      rw [if_pos (Key.order_eq_eq.mpr rfl)]
      simp [eq_comm]
    · rw [if_neg (fun heq => hk (Key.order_eq_eq.mp heq))]
      simp [Ne.symm hk]

/-- Taking out an entry is taking out its key. -/
theorem Represents.erase (h : Represents q m) (hl : Ordered l)
    (hmem : ∀ e, e ∈ l ↔ e ∈ q.entries ∧ e.1 ≠ k) : l = (m.map.erase k).toList := by
  refine eq_toList_of_ordered hl fun k' r' => ?_
  rw [hmem, h.mem_iff, Std.ExtTreeMap.getElem?_erase]
  by_cases hk : k = k'
  · subst hk
    rw [if_pos (Key.order_eq_eq.mpr rfl)]
    simp
  · rw [if_neg (fun heq => hk (Key.order_eq_eq.mp heq))]
    simp [Ne.symm hk]

/-- The queue does with its entries what is done with the map, and answers the same. -/
theorem Acts.represents {answer : Answer} (hacts : Acts q op q' answer) (h : Represents q m) :
    Represents q' (m.act op).1 ∧ answer = (m.act op).2 := by
  have hfirst := h.first
  cases hacts with
  | @offered pending k r hopen =>
    have hopen' : ¬m.closed = true := h.closed ▸ hopen ▸ nofun
    have hclosed : (m.putIf pending k r).closed = m.closed := by cases pending <;> rfl
    simp only [SortedMap.act, if_neg hopen']
    exact ⟨⟨h.insert pending k r, h.closed.trans hclosed.symm, rfl⟩, by rw [h.consumerActive]⟩
  | refused hclosed =>
    simp only [SortedMap.act, if_pos (h.closed.symm.trans hclosed)]
    exact ⟨h, trivial⟩
  | @putBack pending k r =>
    have hrest : (m.putIf pending k r).closed = m.closed ∧
        (m.putIf pending k r).consumerActive = m.consumerActive := by
      cases pending <;> exact ⟨rfl, rfl⟩
    exact ⟨⟨h.insert pending k r, h.closed.trans hrest.1.symm,
      h.consumerActive.trans hrest.2.symm⟩, rfl⟩
  | @removed k r he =>
    have hentries : q.entries.filter (·.1 ≠ k) = (m.map.erase k).toList :=
      h.erase (List.Pairwise.sublist List.filter_sublist h.ordered) fun e => by simp
    refine ⟨⟨hentries, h.closed, h.consumerActive⟩, ?_⟩
    have hcontains : m.map.contains k = true := by
      rw [Std.ExtTreeMap.contains_eq_isSome_getElem?, h.mem_iff.mp he]
      rfl
    simp only [SortedMap.act, hcontains]
  | @missed k hnone =>
    have hentries : q.entries = (m.map.erase k).toList :=
      h.erase h.ordered fun e => ⟨fun he => ⟨he, hnone e he⟩, And.left⟩
    refine ⟨⟨hentries, h.closed, h.consumerActive⟩, ?_⟩
    have hcontains : m.map.contains k = false := by
      rw [Std.ExtTreeMap.contains_eq_isSome_getElem?]
      cases hr : m.map[k]? with
      | none => rfl
      | some r => exact absurd rfl (hnone (k, r) (h.mem_iff.mpr hr))
    simp only [SortedMap.act, hcontains]
  | @delivered now idleElapsed k r rest hentries hout =>
    rw [hentries] at hfirst
    rw [h.closed] at hout
    have hrest : rest = (m.map.erase k).toList := by
      have hordered := hentries ▸ h.ordered
      exact h.erase hordered.tail fun e => hentries ▸ hordered.mem_tail_iff
    simp only [SortedMap.act, hfirst, List.head?_cons, if_pos hout]
    exact ⟨⟨hrest, h.closed, h.consumerActive⟩, trivial⟩
  | drained hentries hclosed =>
    rw [hentries] at hfirst
    simp only [SortedMap.act, hfirst, List.head?_nil, if_pos (h.closed.symm.trans hclosed)]
    exact ⟨⟨h.entries, h.closed, rfl⟩, trivial⟩
  | idled hentries hopen =>
    rw [hentries] at hfirst
    have hopen' : ¬m.closed = true := h.closed ▸ hopen ▸ nofun
    simp only [SortedMap.act, hfirst, List.head?_nil, if_neg hopen', if_true]
    exact ⟨⟨h.entries, h.closed, rfl⟩, trivial⟩
  | @notDue now idleElapsed k r rest hentries hlater hopen =>
    rw [hentries] at hfirst
    have hkept : ¬(k.trigger ≤ now ∨ m.closed = true) := by
      rw [← h.closed, hopen]
      simpa using hlater
    simp only [SortedMap.act, hfirst, List.head?_cons, if_neg hkept]
    exact ⟨h, trivial⟩
  | awaited hentries hopen =>
    rw [hentries] at hfirst
    have hopen' : ¬m.closed = true := h.closed ▸ hopen ▸ nofun
    simp only [SortedMap.act, hfirst, List.head?_nil, if_neg hopen', Bool.false_eq_true, if_false]
    exact ⟨h, trivial⟩
  | asked =>
    refine ⟨h, ?_⟩
    simp only [SortedMap.act, hfirst, untilDue]
  | closed => exact ⟨⟨h.entries, rfl, rfl⟩, by rw [h.consumerActive]; rfl⟩
  | released => exact ⟨⟨h.entries, h.closed, rfl⟩, rfl⟩

theorem Represents.run (h : Represents q m) (ops : List Op) :
    Represents (q.after ops) (m.after ops) ∧ q.answers ops = m.answers ops := by
  induction ops generalizing q m with
  | nil => exact ⟨h, rfl⟩
  | cons op rest ih =>
    obtain ⟨hnext, hanswer⟩ := (act_acts q op).represents h
    obtain ⟨hafter, hanswers⟩ := ih hnext
    refine ⟨hafter, ?_⟩
    rw [answers, SortedMap.answers, hanswer, hanswers]

/-! ## Entries that come and go -/

/-- The operation puts in an entry that is not there yet. -/
def enters (e : Key × Ref) (q : DelayQueue) : Op → Bool
  | .offer pending k r => pending && !q.closed && e == (k, r) && !q.entries.contains e
  | .putBack pending k r => pending && e == (k, r) && !q.entries.contains e
  | _ => false

/-- The operation takes an entry out: it is removed, or the consumer gets it. -/
def takenOut (e : Key × Ref) (q : DelayQueue) : Op → Answer → Bool
  | .remove k, _ => k == e.1 && q.entries.contains e
  | .look .., .delivered (some (.ready ..)) => q.entries.head? == some e
  | _, _ => false

def leaves (e : Key × Ref) (q : DelayQueue) (op : Op) : Bool := takenOut e q op (q.act op).2

/-- Every record that is put in has a number of its own, which is part of its key. -/
def Op.Numbered (number : Ref → Nat) (op : Op) : Prop :=
  ∀ k r, op.entry? = some (k, r) → k.id = number r

variable {number : Ref → Nat}

/-- The entries are in order, and each record is under its own number. -/
structure Tidy (number : Ref → Nat) (q : DelayQueue) : Prop where
  ordered : Ordered q.entries
  numbered : ∀ e ∈ q.entries, e.1.id = number e.2

/-- What an entry is that replaces another: the same one. -/
theorem Tidy.mem_entriesWith_iff (h : Tidy number q) (hinj : Function.Injective number)
    {pending : Bool} (hr : k.id = number r) :
    e ∈ entriesWith pending k r q.entries ↔ (pending = true ∧ e = (k, r)) ∨ e ∈ q.entries := by
  cases pending with
  | false => simp [entriesWith]
  | true =>
    rw [entriesWith, if_pos rfl, h.ordered.mem_insertEntry_iff]
    constructor
    · exact Or.imp (⟨rfl, ·⟩) And.left
    · rintro (⟨-, he⟩ | he)
      · exact .inl he
      · by_cases hk : e.1 = k
        · have hsame : e.2 = r := hinj (by rw [← h.numbered e he, hk, hr])
          exact .inl (Prod.ext hk hsame)
        · exact .inr ⟨he, hk⟩

theorem Acts.tidy {answer : Answer} (hacts : Acts q op q' answer) (h : Tidy number q)
    (hop : op.Numbered number) : Tidy number q' := by
  have hwith : ∀ {pending : Bool} {k : Key} {r : Ref}, op.entry? = some (k, r) →
      ∀ e ∈ entriesWith pending k r q.entries, e.1.id = number e.2 := by
    intro pending k r hentry e he
    rcases mem_entriesWith he with ⟨-, rfl⟩ | he
    · exact hop k r hentry
    · exact h.numbered e he
  cases hacts with
  | offered _ => exact ⟨ordered_entriesWith h.ordered, hwith rfl⟩
  | putBack => exact ⟨ordered_entriesWith h.ordered, hwith rfl⟩
  | removed _ =>
    exact ⟨List.Pairwise.sublist List.filter_sublist h.ordered,
      fun e he => h.numbered e (List.mem_of_mem_filter he)⟩
  | delivered hentries _ =>
    obtain ⟨hordered, hnumbered⟩ := h
    rw [hentries] at hordered hnumbered
    exact ⟨hordered.tail, fun e he => hnumbered e (List.mem_cons_of_mem _ he)⟩
  | _ => exact ⟨h.ordered, h.numbered⟩

/-- An operation adds an entry that it puts in, takes away one that it takes out, and changes
nothing about the others. -/
theorem Acts.balance {answer : Answer} (hacts : Acts q op q' answer) (h : Tidy number q)
    (hinj : Function.Injective number) (hop : op.Numbered number) (e : Key × Ref) :
    q.entries.count e + (enters e q op).toNat =
      (takenOut e q op answer).toNat + q'.entries.count e := by
  rw [h.ordered.count_eq, (hacts.tidy h hop).ordered.count_eq]
  have hwith : ∀ {pending : Bool} {k : Key} {r : Ref}, op.entry? = some (k, r) →
      (entriesWith pending k r q.entries).contains e =
        ((pending && e == (k, r)) || q.entries.contains e) := by
    intro pending k r hentry
    rw [Bool.eq_iff_iff]
    simp [h.mem_entriesWith_iff hinj (hop k r hentry)]
  cases hacts with
  | @offered pending k r hopen =>
    simp only [enters, hwith rfl, hopen]
    cases pending <;> cases e == (k, r) <;> cases q.entries.contains e <;> rfl
  | @refused pending k r hclosed =>
    have hnone : enters e q (.offer pending k r) = false := by simp [enters, hclosed]
    rw [hnone]
    exact Nat.add_comm _ _
  | @putBack pending k r =>
    simp only [enters, hwith rfl]
    cases pending <;> cases e == (k, r) <;> cases q.entries.contains e <;> rfl
  | @removed k r he =>
    have hkept : (q.entries.filter (·.1 ≠ k)).contains e =
        (!(k == e.1) && q.entries.contains e) := by
      rw [Bool.eq_iff_iff]
      simp only [List.contains_iff_mem, List.mem_filter, decide_eq_true_eq, Bool.and_eq_true,
        Bool.not_eq_true', beq_eq_false_iff_ne]
      exact ⟨fun ⟨he, hne⟩ => ⟨hne.symm, he⟩, fun ⟨hne, he⟩ => ⟨he, hne.symm⟩⟩
    show _ = _ + ((q.entries.filter (·.1 ≠ k)).contains e).toNat
    rw [hkept, takenOut]
    cases k == e.1 <;> cases q.entries.contains e <;> rfl
  | @missed k hnone =>
    have hnot : takenOut e q (.remove k) (.removed false) = false := by
      rw [takenOut, Bool.eq_false_iff]
      intro hboth
      simp only [Bool.and_eq_true, beq_iff_eq, List.contains_iff_mem] at hboth
      exact hnone e hboth.2 hboth.1.symm
    rw [hnot]
    exact Nat.add_comm _ _
  | @delivered now idleElapsed k r rest hentries _ =>
    have hnodup := (List.nodup_cons.mp (hentries ▸ h.ordered.nodup)).1
    show _ = (q.entries.head? == some e).toNat + (rest.contains e).toNat
    rw [hentries, List.head?_cons]
    by_cases he : e = (k, r)
    · subst he
      simp [hnodup, enters]
    · simp [he, enters, Ne.symm he]
  | _ => exact Nat.add_comm _ _

/-- No entry is lost, and none goes out twice. -/
theorem balance (h : Tidy number q) (hinj : Function.Injective number)
    (hops : ∀ op ∈ ops, op.Numbered number) (e : Key × Ref) :
    q.entries.count e + times (enters e) q ops =
      times (leaves e) q ops + (q.after ops).entries.count e := by
  induction ops generalizing q with
  | nil => exact Nat.add_comm _ _
  | cons op rest ih =>
    have hop := hops op List.mem_cons_self
    have hstep := (act_acts q op).balance h hinj hop e
    have hrest := ih ((act_acts q op).tidy h hop) fun op hop => hops op (List.mem_cons_of_mem _ hop)
    simp only [times, leaves]
    show _ = _ + ((q.act op).1.after rest).entries.count e
    omega

/-! ## Answers -/

/-- What a queue answers, in terms of its entries. -/
structure Answers (q : DelayQueue) : Prop where
  /-- The consumer gets the first entry once it is due, or at once if the queue is closed; the entry
  is early if its trigger is still to come. -/
  ready : ∀ now idleElapsed r early,
    (q.act (.look now idleElapsed)).2 = .delivered (some (.ready r early)) ↔
      ∃ k rest, q.entries = (k, r) :: rest ∧ (k.trigger ≤ now ∨ q.closed = true) ∧
        early = decide (now < k.trigger)
  smallest : ∀ k r rest, q.entries = (k, r) :: rest → ∀ e ∈ rest, k < e.1
  popped : ∀ now idleElapsed r early,
    (q.act (.look now idleElapsed)).2 = .delivered (some (.ready r early)) →
      (q.act (.look now idleElapsed)).1.entries = q.entries.tail
  /-- Only a closed queue gives out what is not due. -/
  early : ∀ now idleElapsed r,
    (q.act (.look now idleElapsed)).2 = .delivered (some (.ready r true)) → q.closed = true
  notDue : ∀ now idleElapsed k r rest, q.closed = false → q.entries = (k, r) :: rest →
    now < k.trigger → q.act (.look now idleElapsed) = (q, .delivered none)
  drained : ∀ now idleElapsed,
    (q.act (.look now idleElapsed)).2 = .delivered (some .closed) ↔
      q.closed = true ∧ q.entries = []
  idle : ∀ now idleElapsed,
    (q.act (.look now idleElapsed)).2 = .delivered (some .idle) ↔
      q.closed = false ∧ q.entries = [] ∧ idleElapsed = true
  refused : q.closed = true → ∀ pending k r, q.act (.offer pending k r) = (q, .offered none)
  /-- A record is put back into a closed queue as into an open one. -/
  putBack : ∀ k r, (k, r) ∈ (q.act (.putBack true k r)).1.entries

theorem answers_of_ordered (h : Ordered q.entries) : Answers q := by
  have hready : ∀ now idleElapsed r early,
      (q.act (.look now idleElapsed)).2 = .delivered (some (.ready r early)) ↔
        ∃ k rest, q.entries = (k, r) :: rest ∧ (k.trigger ≤ now ∨ q.closed = true) ∧
          early = decide (now < k.trigger) := by
    intro now idleElapsed r early
    cases hentries : q.entries with
    | nil =>
      rw [look_nil hentries]
      by_cases hclosed : q.closed = true <;> cases idleElapsed <;> simp [hclosed]
    | cons e rest =>
      obtain ⟨k, r'⟩ := e
      rw [look_cons hentries]
      by_cases hout : k.trigger ≤ now ∨ q.closed = true
      · rw [if_pos hout]
        constructor
        · rintro ⟨⟩
          exact ⟨k, rest, rfl, hout, rfl⟩
        · rintro ⟨k', rest', heq, -, rfl⟩
          cases heq
          rfl
      · rw [if_neg hout]
        constructor
        · nofun
        · rintro ⟨k', rest', heq, hout', -⟩
          cases heq
          exact absurd hout' hout
  refine ⟨hready, ?smallest, ?popped, ?early, ?notDue, ?drained, ?idle, ?refused, ?putBack⟩
  case smallest =>
    intro k r rest hentries
    rw [hentries] at h
    exact (List.pairwise_cons.mp h).1
  case popped =>
    intro now idleElapsed r early hanswer
    obtain ⟨k, rest, hentries, hout, -⟩ := (hready now idleElapsed r early).mp hanswer
    rw [look_cons hentries, if_pos hout, hentries]
    rfl
  case early =>
    intro now idleElapsed r hanswer
    obtain ⟨k, rest, -, hdue | hclosed, hearly⟩ := (hready now idleElapsed r true).mp hanswer
    · exact absurd (of_decide_eq_true hearly.symm) (Int.not_lt.mpr hdue)
    · exact hclosed
  case notDue =>
    intro now idleElapsed k r rest hopen hentries hlater
    rw [look_cons hentries, if_neg]
    rw [hopen]
    simpa using hlater
  case drained =>
    intro now idleElapsed
    cases hentries : q.entries with
    | nil =>
      rw [look_nil hentries]
      by_cases hclosed : q.closed = true <;> cases idleElapsed <;> simp [hclosed]
    | cons e rest =>
      rw [look_cons hentries]
      split <;> simp
  case idle =>
    intro now idleElapsed
    cases hentries : q.entries with
    | nil =>
      rw [look_nil hentries]
      by_cases hclosed : q.closed = true <;> cases idleElapsed <;> simp [hclosed]
    | cons e rest =>
      rw [look_cons hentries]
      split <;> simp
  case refused =>
    intro hclosed pending k r
    simp only [act, offer, if_pos hclosed]
  case putBack => exact fun k r => h.mem_insertEntry_iff.mpr (.inl rfl)

/-- The delay queue is a sorted finite map, whatever the operations on it are and in whatever order
they come, as long as no two records share a number. It gives the answers of the map and holds what
the map holds. So an entry is there exactly if it has come in once more than it has gone out:
nothing is lost, and nothing goes out twice. What is answered is right for the queue as it is at
that instant, however often the consumer has looked in vain before. -/
theorem queue_is_sorted_map (hinj : Function.Injective number)
    (hops : ∀ op ∈ ops, op.Numbered number) :
    answers {} ops = SortedMap.answers {} ops ∧
      (after {} ops).entries = (SortedMap.after {} ops).map.toList ∧
      (∀ e, times (enters e) {} ops =
          times (leaves e) {} ops + (after {} ops).entries.count e ∧
        (after {} ops).entries.count e ≤ 1) ∧
      Answers (after {} ops) ∧
      ((after {} ops).closed = true ↔ .close ∈ ops) := by
  obtain ⟨hafter, hanswers⟩ := represents_empty.run ops
  have hempty : Tidy number {} := ⟨.nil, nofun⟩
  refine ⟨hanswers, hafter.entries, fun e => ⟨?_, ?_⟩, answers_of_ordered hafter.ordered, ?_⟩
  · have hbalance := balance hempty hinj hops e
    rw [show ({} : DelayQueue).entries.count e = 0 from rfl, Nat.zero_add] at hbalance
    exact hbalance
  · rw [hafter.ordered.count_eq]
    exact Bool.toNat_le _
  · rw [after_closed]
    simp

/-- Two records come in, one of them goes out when it is due, and the other one when the queue is
closed, whereupon it is put back. -/
def closedInBetween : List Op :=
  [.offer true ⟨5, 1⟩ 1, .offer true ⟨3, 0⟩ 0, .offer false ⟨4, 2⟩ 2, .look 2 true, .untilDue 2,
    .look 3 false, .look 4 true, .close, .look 4 false, .offer true ⟨9, 3⟩ 3,
    .putBack true ⟨7, 1⟩ 1, .remove ⟨5, 1⟩, .look 7 false, .look 7 false]

theorem closed_map_gives_out_early :
    SortedMap.answers {} closedInBetween =
      [.offered (some true), .offered (some false), .offered (some false), .delivered none,
        .due (some 1), .delivered (some (.ready 0 false)), .delivered none, .closed false,
        .delivered (some (.ready 1 true)), .offered none, .done, .removed false,
        .delivered (some (.ready 1 false)), .delivered (some .closed)] := by
  have hnumbered : ∀ op ∈ closedInBetween, op.Numbered id := by
    simp [closedInBetween, Op.Numbered, Op.entry?]
  rw [← (queue_is_sorted_map Function.injective_id hnumbered).1]
  decide

end DelayQueue

end TaskScheduler
