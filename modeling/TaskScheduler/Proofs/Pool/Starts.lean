import TaskScheduler.Proofs.Pool.Factory
import TaskScheduler.Proofs.Pool.Holding
import TaskScheduler.System

/-
  Failed starts of workers, as the callers of an open pool see them.

  The outcomes of the attempts are those of the factory, in any order; only a panic that goes
  through the call is left out (`Contained`). `Enqueued`, `Prestarted` and `Resized` say what the
  three calls that start workers come to: which attempts are made, how many workers that gives, what
  the answer is, and that a call which fails has changed nothing.
-/
namespace TaskScheduler

attribute [ext] Pool

namespace Pool

variable {p p' : Pool} {n limit : Nat}

/-- The pool after an attempt to start a worker that has failed: the factory has been asked. -/
def missed (p : Pool) : Pool := { p with factory := p.factory.asked }

theorem Recruits.eq_missed {β : Type} {e : Effect β} (h : Recruits p limit 0 e)
    (hlimit : 0 < limit) : e.pool = p.missed := by
  obtain ⟨new, hworkers, hnew, -⟩ := h.grew.workers
  rw [List.length_eq_zero_iff.mp hnew, List.append_nil] at hworkers
  have hattempts := h.attempts
  rw [if_pos hlimit] at hattempts
  have hfactory : e.pool.factory = p.factory.asked := by
    have hstart := h.grew.start
    generalize e.pool.factory = factory at hstart hattempts
    cases factory
    cases hstart
    cases hattempts
    rfl
  exact Pool.ext h.grew.queue h.grew.coreSize h.grew.live h.grew.idle h.grew.active h.grew.largest
    h.grew.nextIndex h.grew.closing h.grew.completed hfactory hworkers h.grew.gauge h.grew.signals

/-- What handing a record to an open pool comes to. -/
structure Enqueued (p : Pool) (r : Ref) (e : Effect Unit) : Prop where
  /-- A worker is tried to be started if no idle one is there for the record, and the core size has
  room for one more. -/
  tried : e.pool.factory.attempts =
    p.factory.attempts + if p.idle ≤ p.queue.length ∧ p.live < p.coreSize then 1 else 0
  refused : ∀ reason, e.answer = .error (.spawn reason) ↔
    p.factory.attempts < e.pool.factory.attempts ∧ (p.outcome 0).reason? = some reason ∧ p.live = 0
  undone : ∀ reason, e.answer = .error (.spawn reason) → e.pool = p.missed
  queued : (∀ reason, e.answer ≠ .error (.spawn reason)) →
    e.answer = .ok () ∧ e.pool.queue = p.queue ++ [r]

theorem execute_enqueued (hopen : p.closing = false) (hcontained : p.factory.Contained) (r : Ref)
    (choice : Nat) : Enqueued p r (p.execute r choice) := by
  have hres := execute_result p r choice
  have hqueue := execute_queue p r choice
  generalize p.execute r choice = e at hres hqueue
  cases hres with
  | closed hclosing => cases hopen.symm.trans hclosing
  | woke choice _ hidle =>
    have hattempts : ({ p with queue := p.queue ++ [r] }.notifyOne choice).factory = p.factory := by
      rcases notifyOne_cases { p with queue := p.queue ++ [r] } choice with ⟨-, he⟩ | ⟨i, -, he⟩
      · rw [he]
      · rw [he]
        rfl
    refine ⟨?_, fun reason => ⟨nofun, ?_⟩, nofun, fun _ => ⟨rfl, hqueue.2⟩⟩
    · rw [if_neg (by omega)]
      exact congrArg (·.attempts) hattempts
    · rintro ⟨hasked, -⟩
      exact absurd (congrArg (·.attempts) hattempts) (Nat.ne_of_gt hasked)
  | grew events _ hidle hg hroom hstarted hattempts =>
    refine ⟨?_, fun reason => ⟨nofun, ?_⟩, nofun, fun _ => ⟨rfl, hg.queue⟩⟩
    · rw [if_pos ⟨hidle, hroom⟩]
      exact hattempts
    · rintro ⟨-, hreason, -⟩
      cases hstarted.symm.trans (StartOutcome.isStarted_of_reason hreason)
  | refused reason _ hm hidle hroom hlive hreason =>
    refine ⟨?_, fun reason' => ⟨?_, ?_⟩, fun _ _ => hm, fun hnot => absurd rfl (hnot reason)⟩
    · rw [if_pos ⟨hidle, hroom⟩]
      exact hm.attempts
    · rintro ⟨⟩
      exact ⟨Nat.lt_of_lt_of_eq (Nat.lt_succ_self _) hm.attempts.symm, hreason, hlive⟩
    · rintro ⟨-, hreason', -⟩
      cases hreason.symm.trans hreason'
      rfl
  | notGrown events _ hidle hm hroom hlive =>
    refine ⟨?_, fun reason => ⟨nofun, ?_⟩, nofun, fun _ => ⟨rfl, hm.grew.queue⟩⟩
    · rw [if_pos ⟨hidle, hroom⟩]
      exact hm.attempts
    · rintro ⟨-, -, hnone⟩
      omega
  | unwound failure _ _ _ hnext => exact absurd hnext (hcontained _ _ failure)
  | full _ _ hfull =>
    refine ⟨?_, fun reason => ⟨nofun, ?_⟩, nofun, fun _ => ⟨rfl, rfl⟩⟩
    · rw [if_neg (by omega)]
      rfl
    · rintro ⟨hasked, -⟩
      exact absurd hasked (Nat.lt_irrefl _)

/-- What starting `count` workers ahead of demand comes to in an open pool: `n` are started. -/
structure Prestarted (p : Pool) (count n : Nat) (e : Effect Nat) : Prop where
  recruits : Recruits p (min count (p.coreSize - p.live)) n e
  answered : e.answer = .ok n ∨
    ∃ reason, (p.outcome 0).reason? = some reason ∧ e.answer = .error (.spawn reason)
  refused : (∃ error, e.answer = .error error) ↔
    0 < min count (p.coreSize - p.live) ∧ (p.outcome 0).isStarted = false
  undone : (∃ error, e.answer = .error error) → e.pool = p.missed

theorem prestart_prestarted (hopen : p.closing = false) (hcontained : p.factory.Contained)
    (count : Nat) : ∃ n, Prestarted p count n (p.prestart count) := by
  have hprestart : p.prestart count = prestartFrom count p 0 count := by
    rw [prestart, hopen]
    rfl
  rw [hprestart]
  obtain ⟨n, hn, hanswer⟩ := prestartFrom_result count p 0 count
  generalize prestartFrom count p 0 count = e at hn hanswer
  obtain ⟨q, answer, events⟩ := e
  -- Who has started some workers, or had none to start, has not failed at the first attempt.
  have hsome : answer = .ok (0 + n) → (0 < min count (p.coreSize - p.live) → 0 < n) →
      Prestarted p count n ⟨q, answer, events⟩ := by
    rintro rfl hpos
    refine ⟨hn, .inl (congrArg _ (Nat.zero_add n)), ⟨nofun, ?_⟩, nofun⟩
    rintro ⟨hlimit, hfailed⟩
    cases hfailed.symm.trans (hn.succeeded 0 (hpos hlimit))
  cases hanswer with
  | whole hwhole => exact ⟨n, hsome rfl fun hlimit => hwhole ▸ hlimit⟩
  | stopped hlt hreason hpos => exact ⟨n, hsome rfl fun _ => by omega⟩
  | refused hlt hreason hzero =>
    obtain rfl : n = 0 := by omega
    exact ⟨0, hn, .inr ⟨_, hreason, rfl⟩,
      ⟨fun _ => ⟨hlt, StartOutcome.isStarted_of_reason hreason⟩, fun _ => ⟨_, rfl⟩⟩,
      fun _ => hn.eq_missed hlt⟩
  | unwound hlt hunwound => exact absurd hunwound (hcontained _ _ _)

/-- What changing the core size of an open pool comes to: `n` workers are started. -/
structure Resized (p : Pool) (size n : Nat) (e : Effect Nat) : Prop where
  recruits : Recruits { p with coreSize := max size 1 }
    (min (p.queue.length - p.idle) (max size 1 - p.live)) n e
  answered : e.answer = .ok p.coreSize
  whole : (∀ k < min (p.queue.length - p.idle) (max size 1 - p.live),
    (p.outcome k).isStarted = true) → n = min (p.queue.length - p.idle) (max size 1 - p.live)

theorem setCoreSize_resized (hopen : p.closing = false) (hcontained : p.factory.Contained)
    (size : Nat) : ∃ n, Resized p size n (p.setCoreSize size) := by
  have hresize : p.setCoreSize size = growForQueue p.coreSize { p with coreSize := max size 1 }
      (min (p.queue.length - p.idle) (max size 1 - p.live)) := by
    rw [setCoreSize, hopen]
    rfl
  rw [hresize]
  obtain ⟨n, hn, hanswer⟩ := growForQueue_result p.coreSize { p with coreSize := max size 1 }
    (min (p.queue.length - p.idle) (max size 1 - p.live))
  refine ⟨n, hn, ?_, fun hstarted => ?_⟩
  · rcases hanswer with hok | ⟨-, failure, hunwound, -⟩
    · exact hok
    · exact absurd hunwound (hcontained _ _ failure)
  · rcases Nat.eq_or_lt_of_le hn.le with heq | hlt
    · exact heq
    · cases (hn.failed hlt).symm.trans (hstarted n hlt)

end Pool

namespace System

variable {α : Type} {s : System α}

/-- What the calls that start workers come to, whatever the factory does: a record is refused only
if the one start that it needed has failed and nobody else is there for it, and starts ahead of
demand fail only if the first of them does. Then nothing has changed. Otherwise the record is at the
end of the run queue, and workers are started up to the first failure. No record is touched. -/
theorem failed_starts_change_nothing (hopen : s.pool.closing = false)
    (hcontained : s.pool.factory.Contained) :
    (∀ r choice, s.pool.Enqueued r (s.pool.execute r choice) ∧
        (s.execute r choice).1.records = s.records) ∧
      (∀ count, (∃ n, s.pool.Prestarted count n (s.pool.prestart count)) ∧
        (s.prestart count).1.records = s.records) ∧
      ∀ size, (∃ n, s.pool.Resized size n (s.pool.setCoreSize size)) ∧
        (s.setCoreSize size).1.records = s.records :=
  ⟨fun r choice => ⟨s.pool.execute_enqueued hopen hcontained r choice, rfl⟩,
    fun count => ⟨s.pool.prestart_prestarted hopen hcontained count, rfl⟩,
    fun size => ⟨s.pool.setCoreSize_resized hopen hcontained size, rfl⟩⟩

/-- A service whose factory starts one worker, at the second attempt. -/
def hesitant : System Nat :=
  (initial .lenient "service" (.ofProcessors 3) 100 0).setFactory
    { start := fun attempt _ => if attempt = 1 then .started "worker" else .refused "no thread" }

/-- Its first record is refused, and then three workers are asked for. -/
theorem first_record_is_taken_back :
    let s := (hesitant.execute 0 0).1
    s.pool = hesitant.pool.missed ∧ s.pool.closing = false ∧ s.pool.factory.Contained ∧
      ∃ n, s.pool.Prestarted 3 n (s.pool.prestart 3) ∧ (s.pool.prestart 3).answer = .ok 1 := by
  have hcontained : hesitant.pool.factory.Contained := by
    intro attempt index failure
    show (if attempt = 1 then StartOutcome.started "worker" else .refused "no thread") ≠ _
    split <;> nofun
  obtain ⟨hexecute, -⟩ := failed_starts_change_nothing (s := hesitant) rfl hcontained
  obtain ⟨-, hprestart, -⟩ :=
    failed_starts_change_nothing (s := (hesitant.execute 0 0).1) rfl hcontained
  obtain ⟨n, hn⟩ := (hprestart 3).1
  exact ⟨(hexecute 0 0).1.undone "no thread" rfl, rfl, hcontained, n, hn, rfl⟩

end System

end TaskScheduler
