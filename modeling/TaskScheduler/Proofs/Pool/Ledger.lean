import TaskScheduler.Proofs.Pool.Counters
import TaskScheduler.Proofs.Pool.Factory
import TaskScheduler.Proofs.Pool.Holding

/-
  What becomes of the records that a pool accepts.

  A run is written down as `Posting`s: a record was accepted, picked up by a worker, withdrawn, or
  drained by a closing pool that had no worker for it. The `Ledger` gives each accepted record a
  ticket, so that two hand-overs of the same record can be told apart, and moves the tickets from
  the waiting ones to the others. `Balanced`: the waiting tickets are the run queue, and the picked
  and the waiting ones together are in the order of acceptance. One lemma for each kind of posting
  shows that it is kept (`Balanced.accept`, `.pick`, `.drain`, `.withdraw`), and `act_balanced` that
  an operation does nothing else. `Balanced.length_eq` and `Balanced.served` draw the conclusions.
  `act_runs`: what has been picked up is in a worker's hand until it is counted.
-/
namespace TaskScheduler

/-- A part of a list without repetitions, which has its order and leaves out just the others. -/
theorem eq_filter_of_perm_append {β : Type} [BEq β] [LawfulBEq β] {l s t : List β}
    (hl : l.Nodup) (hsub : s.Sublist l) (hperm : (s ++ t).Perm l) : s = l.filter (· ∉ t) := by
  obtain ⟨-, -, hapart⟩ := List.nodup_append.mp (hperm.nodup_iff.mpr hl)
  have hkept : s.filter (· ∉ t) = s :=
    List.filter_eq_self.mpr fun a ha => decide_eq_true fun hat => hapart a ha a hat rfl
  have hnone : t.filter (· ∉ t) = [] := List.filter_eq_nil_iff.mpr (by simp)
  have hlen : (l.filter (· ∉ t)).length = s.length := by
    rw [← (hperm.filter _).length_eq, List.filter_append, hkept, hnone, List.append_nil]
  refine List.Sublist.eq_of_length ?_ hlen.symm
  rw [← hkept]
  exact hsub.filter _

def WorkerPhase.isCounted : WorkerPhase → Bool
  | counted => true
  | _ => false

namespace Pool

/-! ## Postings -/

/-- What can become of a record that is handed to a pool. -/
inductive Fate where
  | accepted
  /-- A worker has picked it up. -/
  | picked
  | withdrawn
  /-- It was taken out by a closing pool that could start no worker for it. -/
  | drained
deriving DecidableEq, Repr

structure Posting where
  fate : Fate
  record : Ref
deriving DecidableEq, Repr

/-- What an operation does with records. -/
def postings (p : Pool) (op : Op) (p' : Pool) : List Posting :=
  match op with
  | .execute r choice => if (p.execute r choice).answer = .ok () then [⟨.accepted, r⟩] else []
  | .withdraw r => if (p.withdraw r).2 then [⟨.withdrawn, r⟩] else []
  | .shutdown =>
    match p.shutdown.answer with
    | .ok (some (_, stranded)) => stranded.map (⟨.drained, ·⟩)
    | _ => []
  | .look i =>
    match p'.phase? i with
    | some (.picked r) => [⟨.picked, r⟩]
    | _ => []
  | _ => []

/-- What a run has done with records. -/
def history (p : Pool) (ops : List Op) : List Posting := notes act postings p ops

/-- The records with a fate, in the order in which they met it. -/
def recordsOf (fate : Fate) (history : List Posting) : List Ref :=
  (history.filter (·.fate = fate)).map (·.record)

theorem recordsOf_append (fate : Fate) (history later : List Posting) :
    recordsOf fate (history ++ later) = recordsOf fate history ++ recordsOf fate later := by
  rw [recordsOf, List.filter_append, List.map_append, recordsOf, recordsOf]

/-! ## Ledgers -/

/-- An accepted record, and how many had been accepted before it. -/
abbrev Ticket := Ref × Nat

/-- The accepted records, and their tickets by what has become of them. -/
structure Ledger where
  accepted : List Ref := []
  waiting : List Ticket := []
  picked : List Ticket := []
  withdrawn : List Ticket := []
  drained : List Ticket := []

namespace Ledger

/-- The number of a ticket, or one that has not been given out if there is no ticket. -/
def number (l : Ledger) (ticket : Option Ticket) : Nat :=
  (ticket.map (·.2)).getD l.accepted.length

def post (l : Ledger) : Posting → Ledger
  | ⟨.accepted, r⟩ =>
    { l with
      accepted := l.accepted ++ [r]
      waiting := l.waiting ++ [(r, l.accepted.length)] }
  | ⟨.picked, r⟩ =>
    { l with
      waiting := l.waiting.tail
      picked := l.picked ++ [(r, l.number l.waiting.head?)] }
  | ⟨.withdrawn, r⟩ =>
    { l with
      waiting := l.waiting.eraseP (·.1 == r)
      withdrawn := l.withdrawn ++ [(r, l.number (l.waiting.find? (·.1 == r)))] }
  | ⟨.drained, r⟩ =>
    { l with
      waiting := l.waiting.tail
      drained := l.drained ++ [(r, l.number l.waiting.head?)] }

def ofHistory (history : List Posting) : Ledger := history.foldl post {}

theorem ofHistory_append (history later : List Posting) :
    ofHistory (history ++ later) = later.foldl post (ofHistory history) := List.foldl_append

theorem foldl_post_columns (history : List Posting) (l : Ledger) :
    (history.foldl post l).accepted = l.accepted ++ recordsOf .accepted history ∧
      (history.foldl post l).picked.map (·.1) =
        l.picked.map (·.1) ++ recordsOf .picked history ∧
      (history.foldl post l).withdrawn.map (·.1) =
        l.withdrawn.map (·.1) ++ recordsOf .withdrawn history ∧
      (history.foldl post l).drained.map (·.1) =
        l.drained.map (·.1) ++ recordsOf .drained history := by
  induction history generalizing l with
  | nil => simp [recordsOf]
  | cons posting history ih =>
    obtain ⟨fate, r⟩ := posting
    obtain ⟨haccepted, hpicked, hwithdrawn, hdrained⟩ := ih (l.post ⟨fate, r⟩)
    rw [List.foldl_cons, haccepted, hpicked, hwithdrawn, hdrained]
    cases fate <;> simp [post, recordsOf]

/-- The records of the tickets with a fate are those of the history. -/
theorem ofHistory_columns (history : List Posting) :
    (ofHistory history).accepted = recordsOf .accepted history ∧
      (ofHistory history).picked.map (·.1) = recordsOf .picked history ∧
      (ofHistory history).withdrawn.map (·.1) = recordsOf .withdrawn history ∧
      (ofHistory history).drained.map (·.1) = recordsOf .drained history :=
  foldl_post_columns history {}

/-- The waiting tickets are the run queue, those that were picked and those that wait are in the
order in which they were given out, and every ticket is in one place. -/
structure Balanced (l : Ledger) (queue : List Ref) : Prop where
  waiting : l.waiting.map (·.1) = queue
  order : (l.picked ++ l.waiting).Sublist l.accepted.zipIdx
  parted : (l.picked ++ l.waiting ++ (l.withdrawn ++ l.drained)).Perm l.accepted.zipIdx

namespace Balanced

variable {l : Ledger} {queue queue' : List Ref} {r : Ref}

theorem length_eq (h : Balanced l queue) :
    l.accepted.length =
      l.picked.length + queue.length + (l.withdrawn.length + l.drained.length) := by
  have hlength := h.parted.length_eq
  rw [List.length_append, List.length_append, List.length_append, List.length_zipIdx] at hlength
  rw [← hlength, ← h.waiting, List.length_map]

/-- No ticket is picked twice, and those that were picked or wait are in the order in which they
were given out. -/
theorem served (h : Balanced l queue) :
    l.picked.Nodup ∧
      l.picked ++ l.waiting = l.accepted.zipIdx.filter (· ∉ l.withdrawn ++ l.drained) := by
  have hnodup : l.accepted.zipIdx.Nodup :=
    List.Pairwise.of_map Prod.snd (fun _ _ => mt (congrArg Prod.snd)) (by
      rw [List.zipIdx_map_snd]
      exact List.nodup_range')
  exact ⟨(hnodup.sublist h.order).sublist (List.sublist_append_left ..),
    eq_filter_of_perm_append hnodup h.order h.parted⟩

theorem accept (h : Balanced l queue) (r : Ref) :
    Balanced (l.post ⟨.accepted, r⟩) (queue ++ [r]) := by
  have htickets : (l.accepted ++ [r]).zipIdx = l.accepted.zipIdx ++ [(r, l.accepted.length)] := by
    rw [List.zipIdx_append, Nat.zero_add]
    rfl
  refine ⟨?_, ?_, ?_⟩
  · rw [← h.waiting]
    exact List.map_append
  · show (l.picked ++ (l.waiting ++ [(r, l.accepted.length)])).Sublist (l.accepted ++ [r]).zipIdx
    rw [htickets, ← List.append_assoc]
    exact h.order.append_right _
  · show (l.picked ++ (l.waiting ++ [(r, l.accepted.length)]) ++ (l.withdrawn ++ l.drained)).Perm
      (l.accepted ++ [r]).zipIdx
    rw [htickets, ← List.append_assoc l.picked, List.append_assoc (l.picked ++ l.waiting)]
    refine (List.perm_append_comm.append_left _).trans ?_
    rw [← List.append_assoc]
    exact h.parted.append_right _

/-- The ticket at the front is that of the first record in the run queue. -/
theorem waiting_eq (h : Balanced l (r :: queue)) :
    l.waiting = (r, l.number l.waiting.head?) :: l.waiting.tail ∧
      l.waiting.tail.map (·.1) = queue := by
  have hwaiting := h.waiting
  cases hl : l.waiting with
  | nil =>
    rw [hl] at hwaiting
    cases hwaiting
  | cons ticket rest =>
    rw [hl] at hwaiting
    obtain ⟨rfl, rfl⟩ := List.cons.inj hwaiting
    exact ⟨rfl, rfl⟩

theorem pick (h : Balanced l (r :: queue)) : Balanced (l.post ⟨.picked, r⟩) queue := by
  obtain ⟨hwaiting, hqueue⟩ := h.waiting_eq
  have hmoved : l.picked ++ [(r, l.number l.waiting.head?)] ++ l.waiting.tail =
      l.picked ++ l.waiting := by
    rw [List.append_assoc, List.singleton_append, ← hwaiting]
  refine ⟨hqueue, ?_, ?_⟩
  · show (l.picked ++ [(r, l.number l.waiting.head?)] ++ l.waiting.tail).Sublist l.accepted.zipIdx
    rw [hmoved]
    exact h.order
  · show (l.picked ++ [(r, l.number l.waiting.head?)] ++ l.waiting.tail ++
      (l.withdrawn ++ l.drained)).Perm l.accepted.zipIdx
    rw [hmoved]
    exact h.parted

/-- A waiting ticket is put to the withdrawn or the drained ones. -/
theorem remove {waiting withdrawn drained : List Ticket} (h : Balanced l queue) (ticket : Ticket)
    (hqueue : waiting.map (·.1) = queue') (hsub : waiting.Sublist l.waiting)
    (hperm : l.waiting.Perm (ticket :: waiting))
    (hgone : (withdrawn ++ drained).Perm (ticket :: (l.withdrawn ++ l.drained))) :
    Balanced { l with waiting, withdrawn, drained } queue' := by
  refine ⟨hqueue, (hsub.append_left _).trans h.order, List.Perm.trans ?_ h.parted⟩
  show (l.picked ++ waiting ++ (withdrawn ++ drained)).Perm _
  calc l.picked ++ waiting ++ (withdrawn ++ drained)
      _ |>.Perm (l.picked ++ waiting ++ ticket :: (l.withdrawn ++ l.drained)) := hgone.append_left _
      _ |>.Perm (ticket :: (l.picked ++ waiting) ++ (l.withdrawn ++ l.drained)) :=
        List.perm_middle
      _ |>.Perm (l.picked ++ (ticket :: waiting) ++ (l.withdrawn ++ l.drained)) :=
        List.perm_middle.symm.append_right _
      _ |>.Perm (l.picked ++ l.waiting ++ (l.withdrawn ++ l.drained)) :=
        (hperm.symm.append_left _).append_right _

theorem drain (h : Balanced l (r :: queue)) : Balanced (l.post ⟨.drained, r⟩) queue := by
  obtain ⟨hwaiting, hqueue⟩ := h.waiting_eq
  have hgone : (l.withdrawn ++ (l.drained ++ [(r, l.number l.waiting.head?)])).Perm
      ((r, l.number l.waiting.head?) :: (l.withdrawn ++ l.drained)) := by
    rw [← List.append_assoc]
    exact List.perm_append_singleton ..
  exact h.remove _ hqueue (List.tail_sublist _) (.of_eq hwaiting) hgone

/-- All that waits is drained, from the front. -/
theorem drainAll (h : Balanced l queue) :
    Balanced ((queue.map (⟨.drained, ·⟩)).foldl post l) [] := by
  induction queue generalizing l with
  | nil => exact h
  | cons r queue ih => exact ih h.drain

theorem withdraw (h : Balanced l queue) (hr : r ∈ queue) :
    Balanced (l.post ⟨.withdrawn, r⟩) (queue.erase r) := by
  rw [← h.waiting] at hr
  obtain ⟨ticket, hticket, rfl⟩ := List.mem_map.mp hr
  obtain ⟨found, before, behind, hbefore, hfound, hwaiting, herase⟩ :=
    List.exists_of_eraseP hticket (p := (·.1 == ticket.1)) (beq_self_eq_true _)
  have hfind : l.waiting.find? (·.1 == ticket.1) = some found := by
    rw [hwaiting, List.find?_append, List.find?_eq_none.mpr hbefore, Option.none_or]
    exact List.find?_cons_of_pos hfound
  have hsame : (ticket.1, l.number (l.waiting.find? (·.1 == ticket.1))) = found := by
    rw [hfind, ← beq_iff_eq.mp hfound]
    rfl
  have hqueue : (l.waiting.eraseP (·.1 == ticket.1)).map (·.1) = queue.erase ticket.1 := by
    rw [← h.waiting, List.erase_eq_eraseP', List.eraseP_map]
    rfl
  refine h.remove found hqueue List.eraseP_sublist ?_ ?_
  · rw [herase, hwaiting]
    exact List.perm_middle
  · rw [hsame, List.append_assoc]
    exact List.perm_middle

end Balanced

end Ledger

/-! ## Steps -/

open Ledger (Balanced)

variable {p p' : Pool} {op : Op} {l : Ledger}

theorem execute_balanced (h : Balanced l p.queue) (hcontained : p.factory.Contained) (r : Ref)
    (choice : Nat) :
    Balanced ((p.postings (.execute r choice) (p.execute r choice).pool).foldl .post l)
      (p.execute r choice).pool.queue := by
  have hqueue := execute_queue p r choice
  simp only [postings]
  generalize p.execute r choice = e at hqueue
  obtain ⟨q, answer, events⟩ := e
  cases answer with
  | ok value =>
    have hpushed : q.queue = p.queue ++ [r] := hqueue.2
    show Balanced (l.post ⟨.accepted, r⟩) q.queue
    rw [hpushed]
    exact h.accept r
  | error error =>
    have hkept : q.queue = p.queue := hqueue
    show Balanced l q.queue
    rw [hkept]
    exact h
  | unwound failure => exact absurd hqueue.2.2 (hcontained _ _ failure)

theorem shutdown_balanced (h : Balanced l p.queue) :
    Balanced ((p.postings .shutdown p.shutdown.pool).foldl .post l) p.shutdown.pool.queue := by
  have hres := shutdown_result p
  simp only [postings]
  generalize p.shutdown = e at hres
  cases hres with
  | left => exact h
  | drained => exact h
  | grew events _ hg =>
    rw [hg.queue]
    exact h
  | stranded => exact h.drainAll
  | unwound failure _ hm =>
    rw [hm.grew.queue]
    exact h

/-- The number of workers that have a record in hand. -/
def inHand (p : Pool) : Nat := p.tally (·.record?.isSome)

/-- A worker that comes back to the run queue takes the first record into its hand, or none. -/
theorem look_postings {i : Nat} (h : p.look i = some p') :
    (p.postings (.look i) p' = [] ∧ p'.queue = p.queue ∧ p'.inHand = p.inHand) ∨
      ∃ r, p.postings (.look i) p' = [⟨.picked, r⟩] ∧ p.queue = r :: p'.queue ∧
        p'.inHand = p.inHand + 1 := by
  obtain ⟨old, new, hback, htally, hnew⟩ := look_tally h
  have hold : old.record?.isSome = false := by cases old <;> first | rfl | cases hback
  have hbalance : p'.inHand + 0 = p.inHand + new.record?.isSome.toNat := by
    have := htally (·.record?.isSome)
    rwa [hold] at this
  rcases look_queue h with ⟨hqueue, hnot⟩ | ⟨r, hqueue, hafter, -⟩
  · refine .inl ⟨?_, hqueue, ?_⟩
    · -- The worker has not picked a record up (`hnot`), so the last case of the definition applies.
      simp only [postings]
    · rcases hnew with ⟨-, rfl | rfl⟩ | ⟨r, hpicked, -⟩
      · exact hbalance
      · exact hbalance
      · exact absurd (hqueue.trans hpicked) (List.cons_ne_self r _).symm
  · refine .inr ⟨r, ?_, hqueue, ?_⟩
    · simp only [postings, hafter]
    · rcases hnew with ⟨hkept, -⟩ | ⟨r', -, rfl⟩
      · exact absurd (hkept.trans hqueue) (List.cons_ne_self r _).symm
      · exact hbalance

theorem look_balanced {i : Nat} (h : Balanced l p.queue) (hl : p.look i = some p') :
    Balanced ((p.postings (.look i) p').foldl .post l) p'.queue := by
  rcases look_postings hl with ⟨hpostings, hqueue, -⟩ | ⟨r, hpostings, hqueue, -⟩
  · rw [hpostings, hqueue]
    exact h
  · rw [hpostings]
    exact (hqueue ▸ h).pick

/-- The ledger goes along with the run queue. -/
theorem act_balanced (h : Balanced l p.queue) (hcontained : p.factory.Contained)
    (hact : p.act op = some p') : Balanced ((p.postings op p').foldl .post l) p'.queue := by
  have hkept : p'.queue = p.queue → Balanced l p'.queue := fun hqueue => hqueue ▸ h
  cases op with
  | execute r choice =>
    cases hact
    exact execute_balanced h hcontained r choice
  | prestart count =>
    cases hact
    obtain ⟨n, hg⟩ := prestart_grew p count
    exact hkept hg.queue
  | setCoreSize size =>
    cases hact
    obtain ⟨n, hg⟩ := setCoreSize_grew p size
    exact hkept hg.queue
  | withdraw r =>
    cases hact
    simp only [postings, Pool.withdraw]
    by_cases hr : p.queue.contains r = true
    · simp only [if_pos hr]
      exact h.withdraw (List.contains_iff_mem.mp hr)
    · simp only [if_neg hr]
      exact h
  | setFactory factory =>
    cases hact
    exact h
  | shutdown =>
    cases hact
    exact shutdown_balanced h
  | look i => exact look_balanced h hact
  | expire i => exact hkept (expire_tally hact).1
  | proceed i phase =>
    obtain ⟨old, -, -, -, rfl⟩ := proceed_eq_some hact
    exact h
  | countRun i => exact hkept (countRun_tally hact).1

theorem look_completed {i : Nat} (h : p.look i = some p') : p'.completed = p.completed := by
  obtain ⟨phase, -, -, hres⟩ := look_result h
  cases hres <;> exact back_completed p phase

/-- A record that is picked up is in a worker's hand until its run is counted. -/
theorem act_runs (hcore : 1 ≤ p.coreSize) (hact : p.act op = some p') :
    p'.inHand + p'.completed =
      p.inHand + p.completed + (recordsOf .picked (p.postings op p')).length := by
  have hcall : op.isCall = true → recordsOf .picked (p.postings op p') = [] →
      p'.inHand + p'.completed =
        p.inHand + p.completed + (recordsOf .picked (p.postings op p')).length := by
    intro hop hpostings
    obtain ⟨n, hn⟩ := act_recruiting hcore hop hact
    rw [hpostings, inHand, act_calm hop hact _ rfl rfl rfl, hn.rise.completed]
    rfl
  cases op with
  | execute r choice =>
    refine hcall rfl ?_
    simp only [postings]
    split <;> rfl
  | prestart count => exact hcall rfl rfl
  | setCoreSize size => exact hcall rfl rfl
  | withdraw r =>
    refine hcall rfl ?_
    simp only [postings]
    split <;> rfl
  | setFactory factory => exact hcall rfl rfl
  | shutdown =>
    refine hcall rfl ?_
    simp only [postings]
    split
    · simp [recordsOf]
    · rfl
  | look i =>
    rw [look_completed hact]
    rcases look_postings hact with ⟨hpostings, -, hhand⟩ | ⟨r, hpostings, -, hhand⟩
    · rw [hpostings, hhand]
      rfl
    · rw [hpostings, hhand]
      exact Nat.add_right_comm ..
  | expire i =>
    have hhand : p'.inHand = p.inHand := (expire_tally hact).2 _ rfl rfl
    obtain ⟨-, rfl⟩ := expire_eq_some hact
    exact congrArg (· + p.completed) hhand
  | proceed i phase =>
    obtain ⟨old, hi, hold, hsame, rfl⟩ := proceed_eq_some hact
    have htally := tally_setPhase hi phase (·.record?.isSome)
    rw [hsame] at htally
    exact congrArg (· + p.completed) (Nat.add_right_cancel htally)
  | countRun i =>
    obtain ⟨r, hi, rfl⟩ := countRun_eq_some hact
    have htally := tally_setPhase (p := { p with completed := p.completed + 1 }) hi .counted
      (·.record?.isSome)
    exact (Nat.add_right_comm _ p.completed 1).trans (congrArg (· + p.completed) htally)

/-! ## Runs -/

/-- Every factory that is set keeps its panics to itself. -/
def Op.Contained : Op → Prop
  | setFactory factory => factory.Contained
  | _ => True

theorem act_contained (hop : op.Contained) (h : p.factory.Contained) (hact : p.act op = some p') :
    p'.factory.Contained := by
  cases op with
  | setFactory factory =>
    cases hact
    exact hop
  | _ =>
    intro attempt index failure
    rw [(act_setup _ hact).start nofun]
    exact h attempt index failure

/-- What a run tells of the records that the pool has accepted. -/
structure Accounted (start : Pool) (ops : List Op) (p : Pool) : Prop where
  coherent : Coherent p
  coreSize : 1 ≤ p.coreSize
  contained : p.factory.Contained
  balanced : Balanced (.ofHistory (start.history ops)) p.queue
  runs : p.inHand + p.completed = (recordsOf .picked (start.history ops)).length

theorem Accounted.initial (host : Host) (config : PoolConfig) :
    Accounted (ofConfig host config) [] (ofConfig host config) where
  coherent := ⟨rfl, rfl, rfl, rfl⟩
  coreSize := Nat.le_max_right ..
  contained := ofConfig_contained host config
  balanced := ⟨rfl, List.Sublist.refl _, List.Perm.refl _⟩
  runs := rfl

theorem Accounted.act {start : Pool} {ops : List Op} (h : Accounted start ops p)
    (hrun : ops.foldlM act start = some p) (hop : op.Contained) (hact : p.act op = some p') :
    Accounted start (ops ++ [op]) p' := by
  have hhistory : start.history (ops ++ [op]) = start.history ops ++ p.postings op p' :=
    notes_concat hrun hact _
  refine ⟨h.coherent.act hact, act_coreSize h.coreSize hact, act_contained hop h.contained hact,
    ?_, ?_⟩
  · rw [hhistory, Ledger.ofHistory_append]
    exact act_balanced h.balanced h.contained hact
  · rw [hhistory, recordsOf_append, List.length_append, ← h.runs]
    exact act_runs h.coreSize hact

theorem Accounted.run (host : Host) (config : PoolConfig) {ops : List Op}
    (hops : ∀ op ∈ ops, op.Contained)
    (hrun : ops.foldlM Pool.act (ofConfig host config) = some p) :
    Accounted (ofConfig host config) ops p := by
  refine run_induction (P := fun ops p => (∀ op ∈ ops, op.Contained) →
    Accounted (ofConfig host config) ops p) (fun _ => .initial host config) ?_ hrun hops
  intro before q op q' hbefore ih hact hall
  have hearlier : ∀ op ∈ before, op.Contained := fun o ho => hall o (List.mem_append_left _ ho)
  exact (ih hearlier).act hbefore (hall op (by simp)) hact

/-- An active worker has a record in hand, or has counted its run and not yet come back. -/
theorem Coherent.active_eq (h : Coherent p) : p.active = p.inHand + p.tally (·.isCounted) := by
  rw [h.active]
  exact tally_eq_add (fun phase => by cases phase <;> rfl) p

/-- Every accepted record waits, is with a worker or has been run, or was withdrawn or drained; a
worker that has counted a run and not yet come back is still counted as active. Each record that was
picked up is in a worker's hand or has been run and counted. A record is picked up once at most for
each time that it was accepted, and in the order of acceptance: the picked tickets, followed by
those that wait in the run queue, are all that were given out, less those of the withdrawn and the
drained records. -/
theorem accepted_records_are_served_in_order (host : Host) (config : PoolConfig) {ops : List Op}
    (hops : ∀ op ∈ ops, op.Contained)
    (hrun : ops.foldlM Pool.act (ofConfig host config) = some p) :
    let history := (ofConfig host config).history ops
    let ledger := Ledger.ofHistory history
    (recordsOf .accepted history).length + p.tally (·.isCounted) =
        p.queue.length + p.active + p.completed + (recordsOf .withdrawn history).length +
          (recordsOf .drained history).length ∧
      ledger.picked.length = p.inHand + p.completed ∧
      ledger.picked.Nodup ∧
      ledger.picked ++ ledger.waiting = (recordsOf .accepted history).zipIdx.filter
        (· ∉ ledger.withdrawn ++ ledger.drained) ∧
      ledger.waiting.map (·.1) = p.queue ∧
      ledger.picked.map (·.1) = recordsOf .picked history ∧
      ledger.withdrawn.map (·.1) = recordsOf .withdrawn history ∧
      ledger.drained.map (·.1) = recordsOf .drained history := by
  have h := Accounted.run host config hops hrun
  intro history ledger
  obtain ⟨haccepted, hpicked, hwithdrawn, hdrained⟩ := Ledger.ofHistory_columns history
  have hbalanced : ledger.Balanced p.queue := h.balanced
  have hruns : ledger.picked.length = p.inHand + p.completed := by
    rw [h.runs, ← hpicked, List.length_map]
  obtain ⟨honce, horder⟩ := hbalanced.served
  refine ⟨?_, hruns, honce, ?_, hbalanced.waiting, hpicked, hwithdrawn, hdrained⟩
  · have hlength := hbalanced.length_eq
    have hactive := h.coherent.active_eq
    rw [← haccepted, ← hwithdrawn, ← hdrained, List.length_map, List.length_map]
    show ledger.accepted.length + _ =
      p.queue.length + p.active + p.completed + ledger.withdrawn.length + ledger.drained.length
    omega
  · rw [← haccepted]
    exact horder

/-- One worker. Of three records, the last being the first one once more, the second is
withdrawn. -/
def servedAroundWithdrawal : List Op :=
  [.setFactory { start := fun _ _ => .started "worker" }, .execute 7 0, .execute 8 0, .execute 7 0,
    .withdraw 8, .look 0, .proceed 0 (.ran 7), .countRun 0, .look 0]

theorem withdrawn_record_is_passed_over :
    ∃ p, servedAroundWithdrawal.foldlM act (ofConfig .lenient (.sized 1 1)) = some p ∧
      p.tally (·.isCounted) = 0 ∧
      (Ledger.ofHistory ((ofConfig .lenient (.sized 1 1)).history servedAroundWithdrawal)).picked =
        [(7, 0), (7, 2)] ∧
      3 = p.queue.length + p.active + p.completed + 1 := by
  have hcontained : ∀ op ∈ servedAroundWithdrawal, op.Contained := by
    simp [servedAroundWithdrawal, Op.Contained, WorkerFactory.Contained]
  obtain ⟨hconserved, -, -, horder, -⟩ :=
    accepted_records_are_served_in_order .lenient (.sized 1 1) hcontained rfl
  exact ⟨_, rfl, rfl, (List.append_nil _).symm.trans horder, hconserved⟩

end Pool

end TaskScheduler
