import TaskScheduler.Pool
import TaskScheduler.Proofs.Tally

/-
  Workers counted by what they are doing, and how the pool grows.

  `tally_setPhase`: one worker changes its phase, and each count changes by that worker alone.
  `Grew p n p'`: from `p` to `p'` the factory has started `n` workers, and nothing else has
  changed. Every call that starts workers in a loop is of this form (`prestart_grew`,
  `setCoreSize_grew`), and `execute_result` and `shutdown_result` say what the two calls come to
  that start one at most.
-/
namespace TaskScheduler

namespace WorkerPhase

def isParked : WorkerPhase → Bool
  | parked => true
  | _ => false

def isWoken : WorkerPhase → Bool
  | woken _ => true
  | _ => false

def isStarting : WorkerPhase → Bool
  | starting => true
  | _ => false

end WorkerPhase

namespace StartOutcome

def isStarted : StartOutcome → Bool
  | started _ => true
  | _ => false

/-- Why no worker has been started, if the pool catches the failure. -/
def reason? : StartOutcome → Option String
  | refused reason => some reason
  | panicked failure => some ("thread factory " ++ failure.text)
  | _ => none

theorem isStarted_of_reason {o : StartOutcome} {reason : String} (h : o.reason? = some reason) :
    o.isStarted = false := by
  cases o with
  | started name => cases h
  | _ => rfl

end StartOutcome

namespace Pool

variable {p p' p'' : Pool} {n m : Nat}

/-! ## Counting workers -/

/-- The number of workers in a phase of some kind. -/
def tally (p : Pool) (f : WorkerPhase → Bool) : Nat := p.workers.countP fun w => f w.phase

theorem tally_congr (h : p'.workers = p.workers) (f : WorkerPhase → Bool) :
    p'.tally f = p.tally f := by
  rw [tally, tally, h]

theorem tally_eq_add {f g k : WorkerPhase → Bool}
    (h : ∀ a, (f a).toNat = (g a).toNat + (k a).toNat) (p : Pool) :
    p.tally f = p.tally g + p.tally k :=
  countP_eq_add (f := fun w : Worker => f w.phase) (fun w => h w.phase) p.workers

theorem phase?_eq_some {i : Nat} {phase : WorkerPhase} :
    p.phase? i = some phase ↔ ∃ w, p.workers[i]? = some w ∧ w.phase = phase := by
  rw [phase?, Option.map_eq_some_iff]

theorem phase?_congr (h : p'.workers = p.workers) (i : Nat) : p'.phase? i = p.phase? i := by
  rw [phase?, phase?, h]

theorem tally_pos {i : Nat} {phase : WorkerPhase} {f : WorkerPhase → Bool}
    (h : p.phase? i = some phase) (hf : f phase = true) : 0 < p.tally f := by
  obtain ⟨w, hw, rfl⟩ := phase?_eq_some.mp h
  exact countP_pos_of_getElem? hw hf

theorem exists_of_tally_pos {f : WorkerPhase → Bool} (h : 0 < p.tally f) :
    ∃ i phase, p.phase? i = some phase ∧ f phase = true := by
  obtain ⟨w, hw, hf⟩ := List.countP_pos_iff.mp h
  obtain ⟨i, hi⟩ := List.mem_iff_getElem?.mp hw
  exact ⟨i, w.phase, phase?_eq_some.mpr ⟨w, hi, rfl⟩, hf⟩

theorem tally_eq_zero_iff {f : WorkerPhase → Bool} :
    p.tally f = 0 ↔ ∀ i phase, p.phase? i = some phase → f phase = false := by
  constructor
  · intro h i phase hi
    cases hf : f phase with
    | false => rfl
    | true =>
      have := tally_pos hi hf
      omega
  · intro h
    rcases Nat.eq_zero_or_pos (p.tally f) with h0 | hpos
    · exact h0
    · obtain ⟨i, phase, hi, hf⟩ := exists_of_tally_pos hpos
      rw [h i phase hi] at hf
      cases hf

theorem phase?_setPhase_self {i : Nat} {old : WorkerPhase} (h : p.phase? i = some old)
    (phase : WorkerPhase) : (p.setPhase i phase).phase? i = some phase := by
  obtain ⟨w, hw, rfl⟩ := phase?_eq_some.mp h
  rw [phase?, setPhase, List.getElem?_modify_eq, hw]
  rfl

theorem tally_setPhase {i : Nat} {old : WorkerPhase} (h : p.phase? i = some old)
    (phase : WorkerPhase) (f : WorkerPhase → Bool) :
    (p.setPhase i phase).tally f + (f old).toNat = p.tally f + (f phase).toNat := by
  obtain ⟨w, hw, rfl⟩ := phase?_eq_some.mp h
  exact countP_modify_add hw (fun w => { w with phase }) fun w => f w.phase

/-! ## Waking workers -/

theorem mem_parked {i : Nat} : i ∈ p.parked ↔ p.phase? i = some .parked := by
  rw [parked, List.mem_filter, List.mem_range, beq_iff_eq]
  constructor
  · exact And.right
  · intro h
    obtain ⟨w, hw, -⟩ := phase?_eq_some.mp h
    exact ⟨(List.getElem?_eq_some_iff.mp hw).1, h⟩

/-- One parked worker is woken, unless there is none. -/
theorem notifyOne_cases (p : Pool) (choice : Nat) :
    (p.tally (·.isParked) = 0 ∧ p.notifyOne choice = p) ∨
      ∃ i, p.phase? i = some .parked ∧ p.notifyOne choice = p.setPhase i (.woken false) := by
  rcases Nat.eq_zero_or_pos p.parked.length with hnil | hpos
  · left
    have hnone : p.parked = [] := List.length_eq_zero_iff.mp hnil
    refine ⟨tally_eq_zero_iff.mpr ?_, ?_⟩
    · intro i phase hi
      cases phase with
      | parked =>
        have hmem := mem_parked.mpr hi
        rw [hnone] at hmem
        cases hmem
      | _ => rfl
    · rw [notifyOne, hnone]
      rfl
  · right
    have hlt : choice % p.parked.length < p.parked.length := Nat.mod_lt _ hpos
    refine ⟨p.parked[choice % p.parked.length], mem_parked.mp (List.getElem_mem hlt), ?_⟩
    rw [notifyOne, List.getElem?_eq_getElem hlt]

theorem phase?_notifyAll (p : Pool) (i : Nat) :
    p.notifyAll.phase? i =
      (p.phase? i).map fun phase => if phase = .parked then .woken false else phase := by
  simp only [phase?, notifyAll, List.getElem?_map, Option.map_map]
  congr 1
  funext w
  by_cases h : w.phase = .parked
  · simp [h]
  · simp [h]

/-- A count that does not tell parked from woken workers stays the same. -/
theorem tally_notifyAll {f : WorkerPhase → Bool} (hf : f .parked = f (.woken false)) (p : Pool) :
    p.notifyAll.tally f = p.tally f := by
  rw [tally, tally, notifyAll, List.countP_map]
  congr 1
  funext w
  by_cases h : w.phase = .parked
  · simp [h, hf]
  · simp [h]

/-! ## Starting workers -/

/-- The outcome of the next attempt to start a worker, when `k` attempts before it have
succeeded. -/
def outcome (p : Pool) (k : Nat) : StartOutcome :=
  p.factory.start (p.factory.attempts + k) (p.nextIndex + k)

/-- The start of a worker, as it is reported: its index, how many workers were live with it, and the
core size. -/
structure Start where
  index : Nat
  live : Nat
  coreSize : Nat
deriving DecidableEq, Repr

/-- The starts of workers that are told of by events. -/
def startsIn (events : List Event) : List Start :=
  events.filterMap fun
    | .workerStarted index live coreSize => some { index, live, coreSize }
    | _ => none

theorem startsIn_append (events events' : List Event) :
    startsIn (events ++ events') = startsIn events ++ startsIn events' :=
  List.filterMap_append

/-- The factory has started `n` workers, which have not done anything yet. -/
structure Grew (p : Pool) (n : Nat) (p' : Pool) : Prop where
  workers : ∃ new, p'.workers = p.workers ++ new ∧ new.length = n ∧
    ∀ w ∈ new, w.phase = .starting
  live : p'.live = p.live + n
  nextIndex : p'.nextIndex = p.nextIndex + n
  attempts : p.factory.attempts + n ≤ p'.factory.attempts
  start : p'.factory.start = p.factory.start
  queue : p'.queue = p.queue
  coreSize : p'.coreSize = p.coreSize
  idle : p'.idle = p.idle
  active : p'.active = p.active
  closing : p'.closing = p.closing
  completed : p'.completed = p.completed
  largest : p'.largest = if n = 0 then p.largest else max p.largest p'.live
  gauge : p'.threadsGauge = if n = 0 then p.threadsGauge else some p'.live
  signals : p'.drainSignals = p.drainSignals

namespace Grew

theorem refl (p : Pool) : Grew p 0 p where
  workers := ⟨[], by simp, rfl, by simp⟩
  live := rfl
  nextIndex := rfl
  attempts := Nat.le_refl _
  start := rfl
  queue := rfl
  coreSize := rfl
  idle := rfl
  active := rfl
  closing := rfl
  completed := rfl
  largest := rfl
  gauge := rfl
  signals := rfl

theorem trans (h : Grew p n p') (h' : Grew p' m p'') : Grew p (n + m) p'' where
  workers := by
    obtain ⟨new, hw, hlen, hall⟩ := h.workers
    obtain ⟨new', hw', hlen', hall'⟩ := h'.workers
    refine ⟨new ++ new', ?_, ?_, ?_⟩
    · rw [hw', hw, List.append_assoc]
    · rw [List.length_append, hlen, hlen']
    · intro w hmem
      rcases List.mem_append.mp hmem with hmem | hmem
      · exact hall w hmem
      · exact hall' w hmem
  live := by rw [h'.live, h.live, Nat.add_assoc]
  nextIndex := by rw [h'.nextIndex, h.nextIndex, Nat.add_assoc]
  attempts := by
    have := h.attempts
    have := h'.attempts
    omega
  start := h'.start.trans h.start
  queue := h'.queue.trans h.queue
  coreSize := h'.coreSize.trans h.coreSize
  idle := h'.idle.trans h.idle
  active := h'.active.trans h.active
  closing := h'.closing.trans h.closing
  completed := h'.completed.trans h.completed
  largest := by
    have hlive := h'.live
    have hfirst := h.largest
    have hsecond := h'.largest
    by_cases hm : m = 0
    · simp only [hm, Nat.add_zero, if_true] at hlive hsecond ⊢
      rw [hsecond, hfirst, hlive]
    · by_cases hn : n = 0
      · simp only [hn, hm, Nat.zero_add, if_true, if_false] at hfirst hsecond ⊢
        rw [hsecond, hfirst]
      · simp only [hn, hm, if_false] at hfirst hsecond
        rw [if_neg (by omega), hsecond, hfirst]
        omega
  gauge := by
    have hlive := h'.live
    have hfirst := h.gauge
    have hsecond := h'.gauge
    by_cases hm : m = 0
    · simp only [hm, Nat.add_zero, if_true] at hlive hsecond ⊢
      rw [hsecond, hfirst, hlive]
    · rw [if_neg (by omega), hsecond, if_neg hm]
  signals := h'.signals.trans h.signals

theorem tally (h : Grew p n p') {f : WorkerPhase → Bool} (hf : f .starting = false) :
    p'.tally f = p.tally f := by
  obtain ⟨new, hw, -, hall⟩ := h.workers
  have hnew : (new.countP fun w => f w.phase) = 0 :=
    List.countP_eq_zero.mpr fun w hmem => by rw [hall w hmem, hf]; decide
  rw [Pool.tally, hw, List.countP_append, hnew]
  rfl

theorem tally_starting (h : Grew p n p') {f : WorkerPhase → Bool} (hf : f .starting = true) :
    p'.tally f = p.tally f + n := by
  obtain ⟨new, hw, hlen, hall⟩ := h.workers
  have hnew : (new.countP fun w => f w.phase) = new.length :=
    List.countP_eq_length.mpr fun w hmem => by rw [hall w hmem, hf]
  rw [Pool.tally, hw, List.countP_append, hnew, hlen]
  rfl

/-- After one worker has been started the next outcome is the one that was behind it. -/
theorem outcome (h : Grew p 1 p') (hatt : p'.factory.attempts = p.factory.attempts + 1) (k : Nat) :
    p'.outcome k = p.outcome (k + 1) := by
  rw [Pool.outcome, h.start, hatt, h.nextIndex, Nat.add_assoc, Nat.add_assoc, Nat.add_comm 1 k,
    Pool.outcome]

end Grew

/-- The factory was asked once, and no worker has started. -/
def Missed (p p' : Pool) : Prop := p' = { p with factory := p.factory.asked }

theorem Missed.grew (h : Missed p p') : Grew p 0 p' := by
  subst h
  exact { Grew.refl p with attempts := Nat.le_succ _ }

theorem Missed.attempts (h : Missed p p') :
    p'.factory.attempts = p.factory.attempts + 1 := by
  subst h
  rfl

/-- What an attempt to start a worker comes to. -/
inductive StartResult (p : Pool) : Effect Unit → Prop where
  | started {grown : Pool} (events : List Event) : Grew p 1 grown →
      grown.factory.attempts = p.factory.attempts + 1 → (p.outcome 0).isStarted = true →
      startsIn events = [⟨p.nextIndex, p.live + 1, p.coreSize⟩] →
      StartResult p ⟨grown, .ok (), events⟩
  | refused {same : Pool} (reason : String) : Missed p same →
      (p.outcome 0).reason? = some reason → StartResult p ⟨same, .error (.spawn reason), []⟩
  | unwound {same : Pool} (failure : Failure) : Missed p same →
      p.factory.next p.nextIndex = .unwound failure → StartResult p ⟨same, .unwound failure, []⟩

theorem startWorker_result (p : Pool) : StartResult p p.startWorker := by
  unfold startWorker
  cases hnext : p.factory.next p.nextIndex with
  | started name =>
    have hgrew : Grew p 1 { p with
        factory := p.factory.asked
        nextIndex := p.nextIndex + 1
        live := p.live + 1
        largest := max p.largest (p.live + 1)
        workers := p.workers ++ [{ name }]
        threadsGauge := some (p.live + 1) } :=
      { Grew.refl p with
        workers := ⟨[{ name }], rfl, rfl, by simp⟩
        live := rfl
        nextIndex := rfl
        attempts := Nat.le_refl _
        largest := rfl
        gauge := rfl }
    exact .started _ hgrew rfl (congrArg StartOutcome.isStarted hnext) rfl
  | refused reason => exact .refused reason rfl (congrArg StartOutcome.reason? hnext)
  | panicked failure => exact .refused _ rfl (congrArg StartOutcome.reason? hnext)
  | unwound failure => exact .unwound failure rfl hnext

/-! ## Starting workers one after the other -/

/-- Out of `limit` workers that are asked for, one after the other until an attempt fails, `n` have
been started, and what was reported tells of each of them. -/
structure Recruits {β : Type} (p : Pool) (limit n : Nat) (e : Effect β) : Prop where
  grew : Grew p n e.pool
  attempts : e.pool.factory.attempts = p.factory.attempts + n + if n < limit then 1 else 0
  le : n ≤ limit
  succeeded : ∀ k < n, (p.outcome k).isStarted = true
  failed : n < limit → (p.outcome n).isStarted = false
  reported : startsIn e.events =
    (List.range n).map fun k => ⟨p.nextIndex + k, p.live + k + 1, p.coreSize⟩

namespace Recruits

variable {β γ : Type} {limit : Nat} {grown : Pool} {e : Effect β} {e' : Effect γ}

theorem none (h : e.pool = p) (hevents : startsIn e.events = []) : Recruits p 0 0 e where
  grew := h ▸ .refl p
  attempts := by rw [h]; rfl
  le := Nat.le_refl _
  succeeded := nofun
  failed := nofun
  reported := hevents

/-- The first attempt fails. -/
theorem missed (h : Missed p e.pool) (hfailed : (p.outcome 0).isStarted = false)
    (hevents : startsIn e.events = []) : Recruits p (limit + 1) 0 e where
  grew := h.grew
  attempts := by rw [h.attempts, if_pos (Nat.succ_pos _)]
  le := Nat.zero_le _
  succeeded := nofun
  failed := fun _ => hfailed
  reported := hevents

/-- The first attempt succeeds, and the others follow. -/
theorem next {events : List Event} (hg : Grew p 1 grown)
    (hatt : grown.factory.attempts = p.factory.attempts + 1)
    (hstarted : (p.outcome 0).isStarted = true)
    (hevents : startsIn events = [⟨p.nextIndex, p.live + 1, p.coreSize⟩])
    (h : Recruits grown limit n e) (hpool : e'.pool = e.pool)
    (hreported : e'.events = events ++ e.events) : Recruits p (limit + 1) (n + 1) e' where
  grew := by rw [hpool, Nat.add_comm]; exact hg.trans h.grew
  attempts := by
    have hrest := h.attempts
    rw [hpool, hrest, hatt]
    simp only [Nat.add_lt_add_iff_right]
    omega
  le := Nat.succ_le_succ h.le
  succeeded := by
    intro k hk
    cases k with
    | zero => exact hstarted
    | succ k =>
      rw [← hg.outcome hatt]
      exact h.succeeded k (by omega)
  failed := by
    intro hn
    rw [← hg.outcome hatt]
    exact h.failed (by omega)
  reported := by
    have hshift : ∀ k, Start.mk (grown.nextIndex + k) (grown.live + k + 1) grown.coreSize =
        ⟨p.nextIndex + (k + 1), p.live + (k + 1) + 1, p.coreSize⟩ := by
      intro k
      rw [hg.nextIndex, hg.live, hg.coreSize, Nat.add_assoc, Nat.add_assoc p.live,
        Nat.add_comm 1 k]
    rw [hreported, startsIn_append, hevents, h.reported, List.range_succ_eq_map, List.map_cons,
      List.map_map]
    simp only [hshift]
    rfl

end Recruits

/-- What a call that starts workers ahead of demand answers. -/
inductive PrestartAnswer (p : Pool) (started limit n : Nat) : Answer Nat → Prop where
  | whole : n = limit → PrestartAnswer p started limit n (.ok (started + n))
  | stopped {reason : String} : n < limit → (p.outcome n).reason? = some reason →
      0 < started + n → PrestartAnswer p started limit n (.ok (started + n))
  | refused {reason : String} : n < limit → (p.outcome n).reason? = some reason →
      started + n = 0 → PrestartAnswer p started limit n (.error (.spawn reason))
  | unwound {failure : Failure} : n < limit → p.outcome n = .unwound failure →
      PrestartAnswer p started limit n (.unwound failure)

theorem PrestartAnswer.next {grown : Pool} {started limit : Nat} {answer : Answer Nat}
    (hg : Grew p 1 grown) (hatt : grown.factory.attempts = p.factory.attempts + 1)
    (h : PrestartAnswer grown (started + 1) limit n answer) :
    PrestartAnswer p started (limit + 1) (n + 1) answer := by
  have hcount : started + 1 + n = started + (n + 1) := by omega
  have houtcome := hg.outcome hatt n
  cases h with
  | whole hn => exact hcount ▸ .whole (by omega)
  | stopped hn hreason hpos => exact hcount ▸ .stopped (by omega) (houtcome ▸ hreason) (by omega)
  | refused hn hreason hzero => omega
  | unwound hn hunwound => exact .unwound (by omega) (houtcome ▸ hunwound)

theorem prestartFrom_result (requested : Nat) (p : Pool) (started left : Nat) :
    ∃ n, Recruits p (min left (p.coreSize - p.live)) n (prestartFrom requested p started left) ∧
      PrestartAnswer p started (min left (p.coreSize - p.live)) n
        (prestartFrom requested p started left).answer := by
  induction left generalizing p started with
  | zero =>
    rw [Nat.zero_min]
    exact ⟨0, .none rfl rfl, .whole rfl⟩
  | succ left ih =>
    unfold prestartFrom
    by_cases hroom : p.live < p.coreSize
    · have hlimit : min (left + 1) (p.coreSize - p.live) =
          min left (p.coreSize - (p.live + 1)) + 1 := by omega
      rw [if_pos hroom, hlimit]
      have hstart := startWorker_result p
      generalize p.startWorker = e at hstart
      cases hstart with
      | @started grown events hg hatt hstarted hevents =>
        obtain ⟨n, hn, hanswer⟩ := ih grown (started + 1)
        rw [hg.coreSize, hg.live] at hn hanswer
        exact ⟨n + 1, .next hg hatt hstarted hevents hn rfl rfl, .next hg hatt hanswer⟩
      | refused reason hm hreason =>
        have hfailed := StartOutcome.isStarted_of_reason hreason
        by_cases h0 : started = 0
        · simp only [if_pos h0]
          exact ⟨0, .missed hm hfailed rfl, .refused (Nat.succ_pos _) hreason h0⟩
        · simp only [if_neg h0]
          exact ⟨0, .missed hm hfailed rfl,
            .stopped (Nat.succ_pos _) hreason (Nat.pos_of_ne_zero h0)⟩
      | unwound failure hm hnext =>
        exact ⟨0, .missed hm (congrArg StartOutcome.isStarted hnext) rfl,
          .unwound (Nat.succ_pos _) hnext⟩
    · have hlimit : min (left + 1) (p.coreSize - p.live) = 0 := by omega
      rw [if_neg hroom, hlimit]
      exact ⟨0, .none rfl rfl, .whole rfl⟩

/-- The answer is the previous core size, unless a panic goes through the call. -/
theorem growForQueue_result (previous : Nat) (p : Pool) (left : Nat) :
    ∃ n, Recruits p left n (growForQueue previous p left) ∧
      ((growForQueue previous p left).answer = .ok previous ∨
        n < left ∧ ∃ failure, p.outcome n = .unwound failure ∧
          (growForQueue previous p left).answer = .unwound failure) := by
  induction left generalizing p with
  | zero => exact ⟨0, .none rfl rfl, .inl rfl⟩
  | succ left ih =>
    unfold growForQueue
    have hstart := startWorker_result p
    generalize p.startWorker = e at hstart
    cases hstart with
    | @started grown events hg hatt hstarted hevents =>
      obtain ⟨n, hn, hanswer⟩ := ih grown
      refine ⟨n + 1, .next hg hatt hstarted hevents hn rfl rfl, ?_⟩
      rw [hg.outcome hatt] at hanswer
      rcases hanswer with hok | ⟨hlt, hunwound⟩
      · exact .inl hok
      · exact .inr ⟨Nat.succ_lt_succ hlt, hunwound⟩
    | refused reason hm hreason =>
      exact ⟨0, .missed hm (StartOutcome.isStarted_of_reason hreason) rfl, .inl rfl⟩
    | unwound failure hm hnext =>
      exact ⟨0, .missed hm (congrArg StartOutcome.isStarted hnext) rfl,
        .inr ⟨Nat.succ_pos _, failure, hnext, rfl⟩⟩

theorem prestartFrom_grew (requested : Nat) (p : Pool) (started left : Nat) :
    ∃ n, Grew p n (prestartFrom requested p started left).pool := by
  obtain ⟨n, hn, -⟩ := prestartFrom_result requested p started left
  exact ⟨n, hn.grew⟩

/-- The workers that were asked for are started, unless one attempt fails. -/
theorem growForQueue_grew (previous : Nat) (p : Pool) (left : Nat) :
    ∃ n, Grew p n (growForQueue previous p left).pool ∧
      ((growForQueue previous p left).pool.factory.attempts = p.factory.attempts + n →
        n = left) := by
  obtain ⟨n, hn, -⟩ := growForQueue_result previous p left
  refine ⟨n, hn.grew, fun hatt => ?_⟩
  have hattempts := hn.attempts
  have hle := hn.le
  split at hattempts <;> omega

theorem prestart_grew (p : Pool) (count : Nat) : ∃ n, Grew p n (p.prestart count).pool := by
  unfold prestart
  split
  · exact ⟨0, .refl p⟩
  · exact prestartFrom_grew count p 0 count

theorem setCoreSize_grew (p : Pool) (size : Nat) :
    ∃ n, Grew { p with coreSize := max size 1 } n (p.setCoreSize size).pool := by
  unfold setCoreSize
  split
  · exact ⟨0, .refl _⟩
  · obtain ⟨n, hg, -⟩ := growForQueue_grew p.coreSize { p with coreSize := max size 1 }
      (min (p.queue.length - p.idle) (max size 1 - p.live))
    exact ⟨n, hg⟩

/-- What handing a record to the pool comes to. -/
inductive ExecuteResult (p : Pool) (r : Ref) : Effect Unit → Prop where
  | closed : p.closing = true → ExecuteResult p r ⟨p, .error .shutdown, []⟩
  /-- An idle worker is woken for the record. -/
  | woke (choice : Nat) : p.closing = false → p.queue.length < p.idle →
      ExecuteResult p r ⟨{ p with queue := p.queue ++ [r] }.notifyOne choice, .ok (), []⟩
  /-- A worker is started for the record. -/
  | grew {grown : Pool} (events : List Event) : p.closing = false → p.idle ≤ p.queue.length →
      Grew { p with queue := p.queue ++ [r] } 1 grown → p.live < p.coreSize →
      (p.outcome 0).isStarted = true → grown.factory.attempts = p.factory.attempts + 1 →
      startsIn events = [⟨p.nextIndex, p.live + 1, p.coreSize⟩] →
      ExecuteResult p r ⟨grown, .ok (), events⟩
  /-- No worker can be started, and none is there. -/
  | refused {same : Pool} (reason : String) : p.closing = false → Missed p same →
      p.idle ≤ p.queue.length → p.live < p.coreSize → p.live = 0 →
      (p.outcome 0).reason? = some reason → ExecuteResult p r ⟨same, .error (.spawn reason), []⟩
  /-- No worker can be started; the record waits for one that is there. -/
  | notGrown {same : Pool} (events : List Event) : p.closing = false → p.idle ≤ p.queue.length →
      Missed { p with queue := p.queue ++ [r] } same → p.live < p.coreSize → 0 < p.live →
      startsIn events = [] → ExecuteResult p r ⟨same, .ok (), events⟩
  /-- A panic goes through the call, and the record stays in the run queue. -/
  | unwound {same : Pool} (failure : Failure) : p.closing = false → p.idle ≤ p.queue.length →
      Missed { p with queue := p.queue ++ [r] } same →
      p.factory.next p.nextIndex = .unwound failure →
      ExecuteResult p r ⟨same, .unwound failure, []⟩
  /-- The pool is as large as it may be. -/
  | full : p.closing = false → p.idle ≤ p.queue.length → p.coreSize ≤ p.live →
      ExecuteResult p r ⟨{ p with queue := p.queue ++ [r] }, .ok (), []⟩

theorem execute_result (p : Pool) (r : Ref) (choice : Nat) :
    ExecuteResult p r (p.execute r choice) := by
  unfold execute
  by_cases hclosing : p.closing = true
  · rw [if_pos hclosing]
    exact .closed hclosing
  · rw [if_neg hclosing]
    replace hclosing : p.closing = false := by simpa using hclosing
    by_cases hidle : (p.queue ++ [r]).length ≤ p.idle
    · rw [if_pos hidle]
      rw [List.length_append] at hidle
      exact .woke choice hclosing hidle
    · rw [if_neg hidle]
      rw [List.length_append, List.length_singleton] at hidle
      have hbusy : p.idle ≤ p.queue.length := by omega
      by_cases hroom : p.live < p.coreSize
      · rw [if_pos hroom]
        have hstart := startWorker_result { p with queue := p.queue ++ [r] }
        generalize startWorker { p with queue := p.queue ++ [r] } = e at hstart
        cases hstart with
        | started events hg hatt hstarted hevents =>
          exact .grew events hclosing hbusy hg hroom hstarted hatt hevents
        | refused reason hm hreason =>
          by_cases hlive : p.live = 0
          · simp only [if_pos hlive]
            refine .refused reason hclosing ?_ hbusy hroom hlive hreason
            rw [hm]
            rfl
          · simp only [if_neg hlive]
            exact .notGrown _ hclosing hbusy hm hroom (Nat.pos_of_ne_zero hlive) rfl
        | unwound failure hm hnext => exact .unwound failure hclosing hbusy hm hnext
      · rw [if_neg hroom]
        exact .full hclosing hbusy (by omega)

/-- What closing the pool comes to. -/
inductive ShutdownResult (p : Pool) : Effect (Option (PoolError × List Ref)) → Prop where
  /-- Workers are there to empty the run queue. -/
  | left : 0 < p.live → ShutdownResult p ⟨{ p with closing := true }.notifyAll, .ok none, []⟩
  /-- There is nothing left to do. -/
  | drained : p.live = 0 → p.queue = [] →
      ShutdownResult p ⟨{ p with closing := true }.notifyAll.notifyDrained, .ok none, []⟩
  /-- One last worker is started. -/
  | grew {grown : Pool} (events : List Event) : p.live = 0 →
      Grew { p with closing := true }.notifyAll 1 grown → p.queue ≠ [] →
      startsIn events = [⟨p.nextIndex, p.live + 1, p.coreSize⟩] →
      ShutdownResult p ⟨grown, .ok none, events⟩
  /-- No worker can be started, and the records are taken out. -/
  | stranded {same : Pool} (reason : String) : p.live = 0 →
      Missed { p with closing := true }.notifyAll same →
      (p.outcome 0).reason? = some reason → p.queue ≠ [] → ShutdownResult p
        ⟨{ same with queue := [] }.notifyDrained, .ok (some (.spawn reason, p.queue)), []⟩
  | unwound {same : Pool} (failure : Failure) : p.live = 0 →
      Missed { p with closing := true }.notifyAll same →
      p.factory.next p.nextIndex = .unwound failure → p.queue ≠ [] →
      ShutdownResult p ⟨same, .unwound failure, []⟩

theorem shutdown_result (p : Pool) : ShutdownResult p p.shutdown := by
  unfold shutdown
  by_cases hlive : 0 < p.live
  · rw [if_pos hlive]
    exact .left hlive
  · rw [if_neg hlive]
    replace hlive : p.live = 0 := by omega
    by_cases hqueue : p.queue = []
    · rw [if_pos (List.isEmpty_iff.mpr hqueue)]
      exact .drained hlive hqueue
    · rw [if_neg (by simpa using hqueue)]
      have hstart := startWorker_result { p with closing := true }.notifyAll
      generalize startWorker { p with closing := true }.notifyAll = e at hstart
      cases hstart with
      | started events hg _ _ hevents => exact .grew events hlive hg hqueue hevents
      | refused reason hm hreason => exact .stranded reason hlive hm hreason hqueue
      | unwound failure hm hnext => exact .unwound failure hlive hm hnext hqueue

end Pool

end TaskScheduler
