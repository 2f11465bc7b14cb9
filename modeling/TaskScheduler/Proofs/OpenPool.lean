import TaskScheduler.Proofs.Bodies
import TaskScheduler.Proofs.Drain
import TaskScheduler.Proofs.Pool.Closing
import TaskScheduler.Proofs.Trace

/-
  A service whose pool is used from outside as well, and the calls that wait for the pool to drain.

  The pump closes the pool of a service once, and hands records over one by one. Here anybody may
  hand any record over, take it back, resize the pool or close it, at any time and again and again,
  while the service goes on; and any number of calls wait for the pool to drain. The factory may do
  what it likes, so records may be left in a pool that has no worker.

  `step_effect`: what a use comes to for the pool, for the records and for those who wait.
  `Reachable.sound`: what holds at all times. `shutdown_strands_nothing`: what closing the pool
  comes to, and what holds ever after.
-/
namespace TaskScheduler

/-- A service with the calls that wait for its pool to drain. -/
structure OpenPool (α : Type) where
  service : System α
  awaits : List Await := []

namespace OpenPool

variable {α : Type}

/-- What can happen next. -/
inductive Use (α : Type) where
  /-- The service goes on by itself. -/
  | act (action : Action α)
  | create (recurrence : Recurrence) (trigger : Instant)
  | cancel (record : Ref) (mayInterrupt : Bool)
  | execute (record : Ref) (choice : Nat)
  | withdraw (record : Ref)
  | setCoreSize (size : Nat)
  | shutdown
  /-- A call begins to wait for the pool to drain. -/
  | await (limited : Bool)
  /-- A call that sleeps goes on. -/
  | resume (index : Nat) (timeOver : Bool)

/-- The state after a use, or `none` if it cannot happen now. -/
def step (o : OpenPool α) : Use α → Option (OpenPool α)
  | .act action => (o.service.step action).map fun service => { o with service }
  | .create recurrence trigger =>
    some { o with service := (o.service.create recurrence trigger).1 }
  | .cancel r mayInterrupt => some { o with service := (o.service.cancelRecord r mayInterrupt).1 }
  | .execute r choice => some { o with service := (o.service.execute r choice).1 }
  | .withdraw r => some { o with service := (o.service.withdraw r).1 }
  | .setCoreSize size => some { o with service := (o.service.setCoreSize size).1 }
  | .shutdown => some { o with service := o.service.shutdownPool.1 }
  | .await limited => some { o with awaits := o.awaits ++ [.look o.service.pool limited] }
  | .resume i timeOver =>
    (o.awaits[i]?.bind (·.resume o.service.pool timeOver)).map fun call =>
      { o with awaits := o.awaits.set i call }

/-- The states that uses in any order can lead to. -/
inductive Reachable : OpenPool α → Prop where
  | initial (host : Host) (name : String) (config : ServiceConfig) (clockEnd now : Instant) :
      Reachable { service := .initial host name config clockEnd now }
  | step {o o' : OpenPool α} (u : Use α) : Reachable o → o.step u = some o' → Reachable o'

/-! ## What a use comes to -/

/-- What a use comes to: something happens to the service, in which nobody waits or goes on; or a
call looks at the pool and nothing happens to the service. -/
inductive Effect (o o' : OpenPool α) : Prop where
  | served : o'.awaits = o.awaits →
      o'.service.pool = o.service.pool ∨ (∃ op, o.service.pool.act op = some o'.service.pool) →
      (∀ r, o.service.Attended r → o'.service.Attended r) → Effect o o'
  | awaited (limited : Bool) : o'.service = o.service →
      o'.awaits = o.awaits ++ [.look o.service.pool limited] → Effect o o'
  | resumed {i : Nat} {call call' : Await} (timeOver : Bool) : o'.service = o.service →
      o.awaits[i]? = some call → call.resume o.service.pool timeOver = some call' →
      o'.awaits = o.awaits.set i call' → Effect o o'

variable {o o' : OpenPool α} {u : Use α}

theorem shutdownPool_pool (s : System α) : s.shutdownPool.1.pool = s.pool.shutdown.pool :=
  congrArg (fun t => t.pool) s.shutdownPool_core

theorem shutdownPool_records (s : System α) : s.shutdownPool.1.records = s.afterShutdown :=
  congrArg (fun t => t.records) s.shutdownPool_core

theorem attended_of_core {s t : System α} {r : Ref} (h : s.core = t.core) (ht : t.Attended r) :
    s.Attended r :=
  System.of_core (P := fun w => w.Attended r)
    (fun _ => propext ⟨fun hw => hw.congr rfl rfl, fun hw => hw.congr rfl rfl⟩) h ht

theorem step_effect (h : o.step u = some o') : Effect o o' := by
  cases u with
  | act action =>
    obtain ⟨s, hstep, rfl⟩ := Option.map_eq_some_iff.mp h
    obtain ⟨t, hmove, hcore⟩ := System.step_move hstep
    have hpool : s.pool = t.pool := congrArg (fun w => w.pool) hcore
    refine .served rfl ?_ fun r hr => ?_
    · show s.pool = _ ∨ ∃ op, _ = some s.pool
      rw [hpool]
      exact hmove.pool_act
    · exact attended_of_core hcore (hmove.attended hr)
  | create recurrence trigger =>
    cases h
    refine .served rfl (.inl rfl) fun r hr => hr.settles ?_ rfl
    exact .of_append rfl rfl Record.Settles.refl ⟨rfl, rfl, rfl, rfl, rfl⟩
  | cancel r mayInterrupt =>
    cases h
    have hcore := o.service.cancelRecord_core r mayInterrupt
    refine .served rfl (.inl (congrArg (fun w => w.pool) hcore)) fun r' hr =>
      attended_of_core hcore (hr.settles ?_ rfl)
    exact .of_modify rfl rfl Record.Settles.refl fun x _ => x.cancel_settles mayInterrupt
  | execute r choice =>
    cases h
    exact .served rfl (.inr ⟨.execute r choice, rfl⟩) fun r' hr =>
      hr.congr rfl (System.bodies_calm (.inr ⟨.execute r choice, rfl, rfl⟩) r')
  | withdraw r =>
    cases h
    exact .served rfl (.inr ⟨.withdraw r, rfl⟩) fun r' hr =>
      hr.congr rfl (System.bodies_calm (.inr ⟨.withdraw r, rfl, rfl⟩) r')
  | setCoreSize size =>
    cases h
    exact .served rfl (.inr ⟨.setCoreSize size, rfl⟩) fun r hr =>
      hr.congr rfl (System.bodies_calm (.inr ⟨.setCoreSize size, rfl, rfl⟩) r)
  | shutdown =>
    cases h
    refine .served rfl (.inr ⟨.shutdown, congrArg some (shutdownPool_pool o.service).symm⟩)
      fun r hr => attended_of_core o.service.shutdownPool_core (hr.settles ?_ ?_)
    · exact .of_afterShutdown rfl rfl Record.Settles.refl Record.reject_settles
    · exact System.bodies_calm (.inr ⟨.shutdown, rfl, rfl⟩) r
  | await limited =>
    cases h
    exact .awaited limited rfl rfl
  | resume i timeOver =>
    obtain ⟨call', hresume, rfl⟩ := Option.map_eq_some_iff.mp h
    obtain ⟨call, hcall, hresume⟩ := Option.bind_eq_some_iff.mp hresume
    exact .resumed timeOver rfl hcall hresume rfl

/-! ## What holds at all times -/

/-- A call sleeps since a signal that has been given, or it was told the truth. -/
def Honest (p : Pool) : Await → Prop
  | .asleep since _ => since ≤ p.drainSignals
  | .answered drained => drained = true → p.hasDrained = true

theorem look_honest (p : Pool) (limited : Bool) : Honest p (.look p limited) := by
  unfold Await.look
  split
  next hdrained => exact fun _ => hdrained
  next => exact Nat.le_refl _

theorem resume_honest {p : Pool} {call call' : Await} {timeOver : Bool}
    (h : call.resume p timeOver = some call') : Honest p call' := by
  unfold Await.resume at h
  split at h
  next =>
    split at h
    · split at h <;> cases h
      exact fun hdrained => hdrained
    · split at h <;> cases h
      exact look_honest ..
  next => cases h

theorem Honest.act {p p' : Pool} {op : Pool.Op} {call : Await} (h : Honest p call)
    (hc : p.Coherent) (hcore : 1 ≤ p.coreSize) (hact : p.act op = some p') : Honest p' call := by
  cases call with
  | asleep since limited => exact Nat.le_trans h (Pool.act_counts hcore hact).signals
  | answered drained => exact fun hdrained => Pool.act_hasDrained hc (h hdrained) hact

structure Sound (o : OpenPool α) : Prop where
  pool : ∃ failed, Pool.Reachable o.service.pool failed
  attended : ∀ r, o.service.Attended r
  awaits : ∀ call ∈ o.awaits, Honest o.service.pool call

theorem Sound.coherent (h : Sound o) : o.service.pool.Coherent := by
  obtain ⟨failed, hpool⟩ := h.pool
  exact hpool.coherent

theorem Sound.coreSize (h : Sound o) : 1 ≤ o.service.pool.coreSize := by
  obtain ⟨failed, hpool⟩ := h.pool
  exact hpool.coreSize

theorem Sound.step (h : Sound o) (hstep : o.step u = some o') : Sound o' := by
  cases step_effect hstep with
  | served hawaits hpool hattended =>
    refine ⟨?_, fun r => hattended r (h.attended r), ?_⟩
    · obtain ⟨failed, hreachable⟩ := h.pool
      rcases hpool with hsame | ⟨op, hact⟩
      · exact ⟨failed, hsame ▸ hreachable⟩
      · exact ⟨_, .act op hreachable hact⟩
    · rw [hawaits]
      rcases hpool with hsame | ⟨op, hact⟩
      · rw [hsame]
        exact h.awaits
      · exact fun call hcall => (h.awaits call hcall).act h.coherent h.coreSize hact
  | awaited limited hservice hawaits =>
    refine ⟨hservice ▸ h.pool, hservice ▸ h.attended, fun call hcall => ?_⟩
    rw [hservice]
    rw [hawaits, List.mem_append, List.mem_singleton] at hcall
    rcases hcall with hcall | rfl
    · exact h.awaits call hcall
    · exact look_honest ..
  | resumed timeOver hservice _ hresume hawaits =>
    refine ⟨hservice ▸ h.pool, hservice ▸ h.attended, fun call hcall => ?_⟩
    rw [hservice]
    rw [hawaits] at hcall
    rcases List.mem_or_eq_of_mem_set hcall with hcall | rfl
    · exact h.awaits call hcall
    · exact resume_honest hresume

theorem Reachable.sound (h : Reachable o) : Sound o := by
  induction h with
  | initial host name config clockEnd now =>
    exact ⟨⟨0, .initial host config.pool⟩,
      fun r => (System.Reachable.initial host name config clockEnd now).attended r, nofun⟩
  | step u _ hstep ih => exact ih.step hstep

/-! ## Closing the pool -/

/-- Every call that sleeps has been woken, and finds the pool drained. -/
def Roused (o : OpenPool α) : Prop :=
  ∀ since limited, .asleep since limited ∈ o.awaits →
    (Await.asleep since limited).resume o.service.pool false = some (.answered true)

/-- Those who sleep since before the pool was drained are woken by a signal given since then. -/
theorem Sound.roused {p : Pool} (h : Sound o)
    (hsignal : o.service.pool.drainSignals < p.drainSignals)
    (hdrained : p.hasDrained = true) {since : Nat} {limited : Bool}
    (hcall : .asleep since limited ∈ o.awaits) :
    (Await.asleep since limited).resume p false = some (.answered true) := by
  have hsince : since < p.drainSignals := Nat.lt_of_le_of_lt (h.awaits _ hcall) hsignal
  simp [Await.resume, Await.isWoken, Await.look, hsince, hdrained]

/-- What closing the pool comes to, if no panic of the factory goes through the call. -/
structure Closed (o : OpenPool α) (t : System α) : Prop where
  windsDown : t.pool.WindsDown
  /-- A record that waited and is taken out is rejected, or has come to its end before. -/
  removed : ∀ r x, o.service.record? r = some x → r ∈ o.service.pool.queue → r ∉ t.pool.queue →
    (x.state = .pending ∧ ∃ error, t.record? r =
      some (x.finish .failed (.error (.rejected (System.strandedReason error))))) ∨
    (x.isFinal = true ∧ t.record? r = some x)
  roused : t.pool.hasDrained = true → Roused { o with service := t }

/-- Without workers, no record is running. -/
theorem Sound.not_running (h : Sound o) (hlive : o.service.pool.live = 0) {r : Ref} {x : Record α}
    (hx : o.service.record? r = some x) : x.state ≠ .running := by
  intro hrunning
  have hone := (h.attended r).running (System.state?_eq_some.mpr ⟨x, hx, hrunning⟩)
  have hzero : o.service.bodies r = 0 := by
    refine Pool.tally_eq_zero_iff.mpr fun i phase hi => ?_
    rw [h.coherent.exited hlive hi]
    rfl
  omega

theorem Sound.removed {t : System α} (h : Sound o) (ht : o.service.shutdownPool = (t, none))
    {r : Ref} {x : Record α} (hx : o.service.record? r = some x)
    (hbefore : r ∈ o.service.pool.queue) (hafter : r ∉ t.pool.queue) :
    (x.state = .pending ∧ ∃ error, t.record? r =
      some (x.finish .failed (.error (.rejected (System.strandedReason error))))) ∨
    (x.isFinal = true ∧ t.record? r = some x) := by
  have hpool : t.pool = o.service.pool.shutdown.pool := by rw [← shutdownPool_pool, ht]
  have hrecords : t.records = o.service.afterShutdown := by rw [← shutdownPool_records, ht]
  have hres := o.service.pool.shutdown_result
  rw [hpool] at hafter
  unfold System.afterShutdown at hrecords
  generalize o.service.pool.shutdown = e at hres hafter hrecords
  cases hres with
  | left => exact absurd hbefore hafter
  | drained => exact absurd hbefore hafter
  | grew events _ hg => exact absurd (hg.queue ▸ hbefore) hafter
  | unwound failure _ hm => exact absurd (hm.grew.queue ▸ hbefore) hafter
  | stranded reason hlive =>
    have hreject := System.rejectAll_record (System.strandedReason (.spawn reason))
      o.service.pool.queue hx
    rw [if_pos hbefore] at hreject
    have hy : t.record? r = some (x.reject (System.strandedReason (.spawn reason))).1 := by
      rw [System.record?, hrecords]
      exact hreject
    have hnot := h.not_running hlive hx
    unfold Record.reject at hy
    cases hstate : x.state with
    | pending =>
      rw [hstate] at hy
      exact .inl ⟨rfl, _, hy⟩
    | running => exact absurd hstate hnot
    | _ =>
      rw [hstate] at hy
      exact .inr ⟨by rw [Record.isFinal, hstate]; rfl, hy⟩

/-- The call that closes the pool returns, unless a panic of the factory goes through it. -/
theorem shutdownPool_returns (s : System α) :
    s.shutdownPool.2 = none ↔ ∀ failure, s.pool.shutdown.answer ≠ .unwound failure := by
  unfold System.shutdownPool
  rcases s.pool.shutdown with ⟨pool, answer, events⟩
  cases answer with
  | ok value => cases value <;> exact ⟨fun _ => nofun, fun _ => rfl⟩
  | error error => exact ⟨fun _ => nofun, fun _ => rfl⟩
  | unwound failure => exact ⟨nofun, fun h => absurd rfl (h failure)⟩

theorem Sound.closed {t : System α} (h : Sound o) (ht : o.service.shutdownPool = (t, none)) :
    Closed o t := by
  have hpool : t.pool = o.service.pool.shutdown.pool := by rw [← shutdownPool_pool, ht]
  have hreturns := (shutdownPool_returns o.service).mp (congrArg Prod.snd ht)
  refine ⟨hpool ▸ Pool.shutdown_windsDown hreturns, fun r x => h.removed ht, ?_⟩
  intro hdrained since limited hcall
  refine h.roused ?_ hdrained hcall
  rw [hpool] at hdrained ⊢
  exact Pool.shutdown_wakes hdrained

/-! ## Afterwards -/

/-- What holds of a pool for good once it has been closed, with as many workers as had been started
by then. -/
structure WoundDown (o : OpenPool α) (started : Nat) : Prop where
  windsDown : o.service.pool.WindsDown
  started : o.service.pool.nextIndex = started
  execute : ∀ r choice, o.service.pool.execute r choice = ⟨o.service.pool, .error .shutdown, []⟩
  prestart : ∀ count, o.service.pool.prestart count = ⟨o.service.pool, .error .shutdown, []⟩
  /-- Who is told that the pool has drained is told the truth. -/
  answered : .answered true ∈ o.awaits → o.service.pool.hasDrained = true
  stays : ∀ u o', o.step u = some o' → o.service.pool.hasDrained = true →
    o'.service.pool.hasDrained = true
  /-- The use that drains the pool wakes all who sleep. -/
  wakes : ∀ u o', o.step u = some o' → o.service.pool.hasDrained = false →
    o'.service.pool.hasDrained = true → o'.awaits = o.awaits ∧ Roused o'

theorem Sound.hasDrained_step (h : Sound o) (hstep : o.step u = some o')
    (hdrained : o.service.pool.hasDrained = true) : o'.service.pool.hasDrained = true := by
  cases step_effect hstep with
  | served _ hpool =>
    rcases hpool with hsame | ⟨op, hact⟩
    · rw [hsame]
      exact hdrained
    · exact Pool.act_hasDrained h.coherent hdrained hact
  | awaited _ hservice | resumed _ hservice =>
    rw [hservice]
    exact hdrained

theorem Sound.wakes (h : Sound o) (hdown : o.service.pool.WindsDown) (hstep : o.step u = some o')
    (hnot : o.service.pool.hasDrained = false) (hdrained : o'.service.pool.hasDrained = true) :
    o'.awaits = o.awaits ∧ Roused o' := by
  cases step_effect hstep with
  | served hawaits hpool =>
    refine ⟨hawaits, fun since limited hcall => ?_⟩
    rw [hawaits] at hcall
    rcases hpool with hsame | ⟨op, hact⟩
    · rw [hsame, hnot] at hdrained
      cases hdrained
    · exact h.roused (hdown.wakes h.coreSize hnot hact hdrained) hdrained hcall
  | awaited _ hservice | resumed _ hservice =>
    rw [hservice, hnot] at hdrained
    cases hdrained

theorem Sound.windsDown_step (h : Sound o) (hdown : o.service.pool.WindsDown)
    (hstep : o.step u = some o') :
    o'.service.pool.WindsDown ∧ o'.service.pool.nextIndex = o.service.pool.nextIndex := by
  cases step_effect hstep with
  | served _ hpool =>
    rcases hpool with hsame | ⟨op, hact⟩
    · rw [hsame]
      exact ⟨hdown, rfl⟩
    · exact Pool.act_windsDown h.coherent hdown hact
  | awaited _ hservice | resumed _ hservice =>
    rw [hservice]
    exact ⟨hdown, rfl⟩

theorem Sound.woundDown (h : Sound o) (hdown : o.service.pool.WindsDown) :
    WoundDown o o.service.pool.nextIndex where
  windsDown := hdown
  started := rfl
  execute := Pool.execute_of_closing hdown.closing
  prestart := Pool.prestart_of_closing hdown.closing
  answered := fun hcall => h.awaits _ hcall rfl
  stays := fun _ _ hstep => h.hasDrained_step hstep
  wakes := fun _ _ hstep => h.wakes hdown hstep

/-- Closing the pool strands nothing, and a call that waits for the pool to drain is told so only
when it has. Unless a panic of the factory goes through it, the call that closes the pool returns;
the pool is then closing, it has a worker or no record waits, and what was taken out of it without a
worker has come to its end. From then on that stays so, nothing is taken in and no worker is
started; a drained pool stays drained, and those who wait for that are woken when it comes about. -/
theorem shutdown_strands_nothing (ho : Reachable o) :
    (.answered true ∈ o.awaits → o.service.pool.hasDrained = true) ∧
      ((∀ failure, o.service.pool.outcome 0 ≠ .unwound failure) →
        o.service.shutdownPool.2 = none) ∧
      ∀ t, o.service.shutdownPool = (t, none) → Closed o t ∧
        ∀ (uses : List (Use α)) o', uses.foldlM OpenPool.step { o with service := t } = some o' →
          WoundDown o' t.pool.nextIndex := by
  have hsound := ho.sound
  refine ⟨fun hcall => hsound.awaits _ hcall rfl,
    fun hnext => (shutdownPool_returns _).mpr (Pool.shutdown_answers hnext), ?_⟩
  intro t ht
  have hclosed := hsound.closed ht
  refine ⟨hclosed, fun uses o' hrun => ?_⟩
  have hstart : Sound { o with service := t } := by
    refine hsound.step (u := .shutdown) ?_
    rw [OpenPool.step, ht]
  have hend : Sound o' ∧ o'.service.pool.WindsDown ∧
      o'.service.pool.nextIndex = t.pool.nextIndex := by
    refine run_induction (P := fun _ o' => Sound o' ∧ o'.service.pool.WindsDown ∧
      o'.service.pool.nextIndex = t.pool.nextIndex) ⟨hstart, hclosed.windsDown, rfl⟩ ?_ hrun
    rintro - p u q - ⟨hp, hdown, hindex⟩ hstep
    obtain ⟨hdown', hindex'⟩ := hp.windsDown_step hdown hstep
    exact ⟨hp.step hstep, hdown', hindex'.trans hindex⟩
  obtain ⟨hsound', hdown, hindex⟩ := hend
  rw [← hindex]
  exact hsound'.woundDown hdown

/-- A panic of the factory leaves a record behind in a pool without workers, and a call waits for
the pool to drain. By the time the pool is closed, the factory refuses to start workers. -/
def abandonedRecord : List (Use Nat) :=
  [.act (.setFactory (.unwinding (.owned "no name"))), .create .once 0, .execute 0 0, .await false,
    .act (.setFactory (.refusing "no thread"))]

theorem abandoned_record_is_rejected :
    ∃ (o : OpenPool Nat) (t : System Nat) (o' : OpenPool Nat), Reachable o ∧
      o.service.pool.live = 0 ∧ o.service.pool.queue = [0] ∧
      o.service.shutdownPool = (t, none) ∧ t.state? 0 = some .failed ∧
      [Use.resume 0 false].foldlM OpenPool.step { o with service := t } = some o' ∧
      o'.awaits = [.answered true] ∧ o'.service.pool.hasDrained = true := by
  have hreachable : ∀ (uses : List (Use Nat)) {o o' : OpenPool Nat}, Reachable o →
      uses.foldlM OpenPool.step o = some o' → Reachable o' := by
    intro uses o o' ho hrun
    exact run_induction (P := fun _ o' => Reachable o') ho (fun _ ht hstep => ht.step _ hstep) hrun
  have ho := hreachable abandonedRecord (.initial .lenient "service" (.ofProcessors 1) 100 0) rfl
  obtain ⟨-, -, hclosed⟩ := shutdown_strands_nothing ho
  obtain ⟨-, hdown⟩ := hclosed _ rfl
  exact ⟨_, _, _, ho, rfl, rfl, rfl, rfl, rfl, rfl,
    (hdown [.resume 0 false] _ rfl).answered (List.mem_singleton_self (Await.answered true))⟩

end OpenPool

end TaskScheduler
