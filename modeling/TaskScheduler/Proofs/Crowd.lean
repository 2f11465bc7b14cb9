import TaskScheduler.Proofs.Drain

/-
  Threads that do to records whatever they like, in any order.

  The service lets only some threads do some things to a record at some times. Here none of that is
  assumed. In a `Crowd` any thread may at any time begin a run, cancel, give up, reject or postpone
  a record, note a failed hand-off, or come for the outcome; only a body that has been called can
  end, and only a run that has begun calls its body. What a thread does between a call and an end
  may as well be done by the body itself.

  `act_changes`, `act_record`: a deed does one section to a record, or none (`Does`).
  `Does.passes`, `Does.keeps`, `Does.trigger`, `Does.waits`: what that means for its outcome, for a
  terminal state, for the trigger, and for whether it waits.
-/
namespace TaskScheduler

/-- What a thread can do to a record. -/
inductive Deed (α : Type) where
  | passTime (time : Duration)
  | make (recurrence : Recurrence) (trigger : Instant)
  | begin (record : Ref)
  /-- A run that has begun calls the body. -/
  | callBody (record : Ref)
  | endBody (record : Ref) (result : Except Failure α)
  | cancel (record : Ref) (mayInterrupt : Bool)
  | giveUp (record : Ref)
  | reject (record : Ref) (reason : String)
  | postpone (record : Ref) (trigger : Instant)
  | noteHandoffFailure (record : Ref)
  /-- A thread comes for the outcome and waits for it, for ever or until an instant that ends a
  timeout. -/
  | fetch (record : Ref) (limit : Option (Instant × Duration))
  /-- A thread comes for the outcome without waiting for it. -/
  | take (record : Ref)
  /-- The `index`-th thread that has come for an outcome goes on. -/
  | retrieve (index : Nat)

/-- The outcome of a record that the deed ends. -/
def Deed.verdict {α : Type} : Deed α → Option (Except TaskError α)
  | endBody _ (.ok value) => some (.ok value)
  | endBody _ (.error failure) => some (.error (.failed failure))
  | callBody _ => some (.error (.rejected "task body already consumed"))
  | cancel .. | giveUp _ => some (.error .cancelled)
  | reject _ reason => some (.error (.rejected reason))
  | _ => none

/-- Threads that do to records whatever they like. -/
structure Crowd (α : Type) where
  service : System α
  /-- The records of the runs that have begun and not called the body yet. -/
  begun : List Ref := []
  /-- The records of the bodies that have been called and have not ended. -/
  inside : List Ref := []
  /-- Those who have come for an outcome. -/
  retrievals : List (Retrieval α) := []

namespace Record

variable {α : Type} {x y : Record α} {o : Except TaskError α}

/-- The record can have this outcome in its state: a value if it is done, and then it runs once; the
cancellation if it is cancelled; a panic or a rejection if it has failed. -/
inductive Befits (x : Record α) : Except TaskError α → Prop where
  | done {value : α} : x.state = .done → x.repeats = false → Befits x (.ok value)
  | cancelled : x.state = .cancelled → Befits x (.error .cancelled)
  | failed {failure : Failure} : x.state = .failed → Befits x (.error (.failed failure))
  | rejected {reason : String} : x.state = .failed → Befits x (.error (.rejected reason))

theorem Befits.isFinal (h : x.Befits o) : x.isFinal = true := by
  rw [Record.isFinal]
  cases h with
  | done hstate _ => rw [hstate]; rfl
  | cancelled hstate => rw [hstate]; rfl
  | failed hstate => rw [hstate]; rfl
  | rejected hstate => rw [hstate]; rfl

/-- It is the cancelled records that have a cancellation as their outcome. -/
theorem Befits.isCancellation_iff {e : TaskError} (h : x.Befits (.error e)) :
    e.isCancellation = true ↔ x.state = .cancelled := by
  cases h with
  | cancelled hstate => exact ⟨fun _ => hstate, fun _ => rfl⟩
  | failed hstate | rejected hstate => rw [hstate]; exact ⟨nofun, nofun⟩

theorem Befits.congr (h : x.Befits o) (hstate : y.state = x.state)
    (hrecurrence : y.recurrence = x.recurrence) : y.Befits o := by
  cases h with
  | done hdone honce =>
    refine .done (hstate.trans hdone) ?_
    rw [repeats, hrecurrence]
    exact honce
  | cancelled hcancelled => exact .cancelled (hstate.trans hcancelled)
  | failed hfailed => exact .failed (hstate.trans hfailed)
  | rejected hfailed => exact .rejected (hstate.trans hfailed)

/-- From `x` to `y` a section other than a retrieval has been carried out on a record: its state and
its outcome are as they were, or the run of a record has begun or come round, or the record has
ended with the outcome `verdict`. -/
inductive Passes (verdict : Option (Except TaskError α)) (x y : Record α) : Prop where
  | stays : y.state = x.state → y.outcome = x.outcome → Passes verdict x y
  | goesOn : x.isFinal = false → y.isFinal = false → y.outcome = x.outcome → Passes verdict x y
  | ends {o : Except TaskError α} : x.isFinal = false → verdict = some o → y.outcome = some o →
      y.Befits o → Passes verdict x y

theorem cancel_passes (x : Record α) (mayInterrupt : Bool) :
    Passes (some (.error .cancelled)) x (x.cancel mayInterrupt).1 := by
  unfold cancel
  split
  next hstate => exact .ends (by rw [isFinal, hstate]; rfl) rfl rfl (.cancelled rfl)
  next hstate =>
    split
    · exact .ends (by rw [isFinal, hstate]; rfl) rfl rfl (.cancelled rfl)
    · exact .stays rfl rfl
  next => exact .stays rfl rfl

theorem giveUp_passes (x : Record α) : Passes (some (.error .cancelled)) x x.giveUp.1 := by
  unfold giveUp
  split
  next hstate => exact .ends (by rw [isFinal, hstate]; rfl) rfl rfl (.cancelled rfl)
  next => exact .stays rfl rfl

theorem reject_passes (x : Record α) (reason : String) :
    Passes (some (.error (.rejected reason))) x (x.reject reason).1 := by
  unfold reject
  split
  next hstate => exact .ends (by rw [isFinal, hstate]; rfl) rfl rfl (.rejected rfl)
  next => exact .stays rfl rfl

theorem postpone_passes (x : Record α) (trigger : Instant)
    (verdict : Option (Except TaskError α)) : Passes verdict x (x.postpone trigger) := by
  unfold postpone
  split <;> exact .stays rfl rfl

theorem enterBody_outcome (x : Record α) : x.enterBody.1.outcome = x.outcome := by
  unfold enterBody
  split <;> rfl

theorem enterBody_passes (x : Record α) (verdict : Option (Except TaskError α)) :
    Passes verdict x x.enterBody.1 :=
  .stays x.enterBody_enters.state x.enterBody_outcome

/-- A body that has ended gives the record its outcome, unless the record runs again or was
cancelled meanwhile. -/
theorem complete_passes (x : Record α) (last now : Instant) (r : Ref)
    (result : Except Failure α) :
    Passes (Deed.endBody r result).verdict x (x.complete last now (.ofExcept result)).1 := by
  unfold complete
  split
  next hstate =>
    have hopen : x.isFinal = false := by rw [isFinal, hstate]; rfl
    cases result with
    | ok value =>
      cases hrepeats : x.repeats with
      | true => exact .goesOn hopen rfl rfl
      | false => exact .ends hopen rfl rfl (.done rfl hrepeats)
    | error failure => exact .ends hopen rfl rfl (.failed rfl)
  next => exact .stays rfl rfl

/-- A run that has found no body to call ends its record. -/
theorem spent_passes (x : Record α) (last now : Instant) :
    Passes (some (.error (.rejected "task body already consumed"))) x
      (x.enterBody.1.complete last now .spent).1 := by
  have hstate := x.enterBody_enters.state
  unfold complete
  split
  next hrunning =>
    refine .ends ?_ rfl rfl (.rejected rfl)
    rw [isFinal, ← hstate, hrunning]
    rfl
  next => exact x.enterBody_passes _

theorem Passes.final {verdict : Option (Except TaskError α)} (h : Passes verdict x y)
    (hfinal : x.isFinal = true) : y.state = x.state ∧ y.outcome = x.outcome := by
  cases h with
  | stays hstate houtcome => exact ⟨hstate, houtcome⟩
  | goesOn hopen _ _ => rw [hfinal] at hopen; cases hopen
  | ends hopen _ _ _ => rw [hfinal] at hopen; cases hopen

/-- The trigger of a record that is postponed moves if the record waits. -/
theorem postpone_trigger (x : Record α) (trigger : Instant) :
    (x.postpone trigger).trigger = x.trigger ∨
      (x.state = .pending ∧ (x.postpone trigger).trigger = trigger) := by
  unfold postpone
  split
  next hstate => exact .inr ⟨hstate, rfl⟩
  next => exact .inl rfl

end Record

namespace Crowd

variable {α : Type} {c c' : Crowd α} {a : Deed α} {r : Ref} {x y : Record α}
  {o : Except TaskError α} {i : Nat}

/-- A service without records, and nobody there. -/
def initial (host : Host) (name : String) (config : ServiceConfig) (clockEnd now : Instant) :
    Crowd α where
  service := .initial host name config clockEnd now

/-- The crowd after a deed, or `none` if it cannot be done now. A run of a record that does not wait
is over before it has begun, and so is one that finds no body to call. -/
def act (c : Crowd α) : Deed α → Option (Crowd α)
  | .passTime time =>
    some { c with service := { c.service with now := c.service.now + time.nanos } }
  | .make recurrence trigger => some { c with service := (c.service.create recurrence trigger).1 }
  | .begin r =>
    match c.service.beginRun r with
    | (s, true) => some { c with service := s, begun := r :: c.begun }
    | (s, false) => some { c with service := s }
  | .callBody r =>
    if c.begun.contains r then
      match c.service.enterBody r with
      | (s, true) =>
        some { c with service := s, begun := c.begun.erase r, inside := r :: c.inside }
      | (s, false) =>
        some { c with service := (s.completeRun r .spent).1, begun := c.begun.erase r }
    else none
  | .endBody r result =>
    if c.inside.contains r then
      some { c with
        service := (c.service.completeRun r (.ofExcept result)).1, inside := c.inside.erase r }
    else none
  | .cancel r mayInterrupt => some { c with service := (c.service.cancelRecord r mayInterrupt).1 }
  | .giveUp r => some { c with service := (c.service.giveUp r).1 }
  | .reject r reason => some { c with service := c.service.reject r reason }
  | .postpone r trigger => some { c with service := c.service.postpone r trigger }
  | .noteHandoffFailure r => some { c with service := (c.service.noteHandoffFailure r).1 }
  | .fetch r limit => some { c with retrievals := c.retrievals ++ [.waiting r limit] }
  | .take r => some { c with retrievals := c.retrievals ++ [.taking r] }
  | .retrieve i =>
    (c.retrievals[i]?).bind fun stage =>
      (c.service.retrievalStep stage).map fun (s, stage') =>
        { c with service := s, retrievals := c.retrievals.set i stage' }

/-- How many runs of the record are in progress. -/
def runs (c : Crowd α) (r : Ref) : Nat := c.begun.count r + c.inside.count r

/-- The deed takes the outcome of the record. -/
def takes (c : Crowd α) (r : Ref) : Deed α → Bool
  | .retrieve i =>
    match c.retrievals[i]? with
    | some (.taking r') => r' == r
    | _ => false
  | _ => false

/-- What a deed does to a record that is there: a section on it, or nothing. -/
inductive Does (c : Crowd α) (r : Ref) (x : Record α) : Deed α → Record α → Prop where
  | spared {a : Deed α} : c.takes r a = false → Does c r x a x
  | began : x.state = .pending → Does c r x (.begin r) { x with state := .running }
  | called : Does c r x (.callBody r) x.enterBody.1
  | spent : Does c r x (.callBody r)
      (x.enterBody.1.complete c.service.clockEnd c.service.now .spent).1
  | ended (result : Except Failure α) : Does c r x (.endBody r result)
      (x.complete c.service.clockEnd c.service.now (.ofExcept result)).1
  | cancelled (mayInterrupt : Bool) :
      Does c r x (.cancel r mayInterrupt) (x.cancel mayInterrupt).1
  | gaveUp : Does c r x (.giveUp r) x.giveUp.1
  | rejected (reason : String) : Does c r x (.reject r reason) (x.reject reason).1
  | postponed (trigger : Instant) : Does c r x (.postpone r trigger) (x.postpone trigger)
  | noted : Does c r x (.noteHandoffFailure r) x.noteHandoffFailure
  | taken {a : Deed α} : c.takes r a = true → Does c r x a x.collectOutcome.1

/-! ## What a deed does to a record -/

/-- What a deed does to the records: it adds one, or changes at most one. -/
inductive Changes (c : Crowd α) (a : Deed α) (c' : Crowd α) : Prop where
  | made (recurrence : Recurrence) (trigger : Instant) :
      c'.service.records =
        c.service.records ++ [{ id := c.service.nextId, recurrence, trigger }] →
      (∀ r, c.takes r a = false) → Changes c a c'
  | changed {r : Ref} {g : Record α → Record α} :
      c'.service.records = c.service.records.modify r g →
      (∀ r', r ≠ r' → c.takes r' a = false) →
      (∀ x, c.service.record? r = some x → Does c r x a (g x)) → Changes c a c'

theorem Changes.of_same (hrecords : c'.service.records = c.service.records)
    (htakes : ∀ r, c.takes r a = false) : Changes c a c' :=
  .changed (r := 0) (g := id) (by rw [List.modify_id, hrecords]) (fun r _ => htakes r)
    fun _ _ => .spared (htakes 0)

/-- A section on a record changes that record, up to what is only counted or reported. -/
theorem Changes.of_core {s : System α} {g : Record α → Record α} (hservice : c'.service = s)
    (hcore : s.core = (c.service.update r g).core) (htakes : ∀ r', c.takes r' a = false)
    (hg : ∀ x, c.service.record? r = some x → Does c r x a (g x)) : Changes c a c' := by
  subst hservice
  exact .changed (congrArg (fun s => s.records) hcore) (fun r _ => htakes r) hg

/-- A thread that waits for an outcome changes nothing. -/
theorem retrievalStep_waiting {s t : System α} {limit : Option (Instant × Duration)}
    {stage : Retrieval α} (h : s.retrievalStep (.waiting r limit) = some (t, stage)) : t = s := by
  simp only [System.retrievalStep] at h
  split at h
  · cases h
    rfl
  · split at h
    · split at h <;> cases h
      rfl
    · cases h

theorem beginRun_changes (h : c.act (.begin r) = some c') : Changes c (.begin r) c' := by
  simp only [act] at h
  rcases c.service.beginRun_cases r with ⟨hsame, -⟩ | ⟨record, hrecord, hstate, hbegun, hcore⟩
  · rw [hsame] at h
    cases h
    exact .of_same rfl fun _ => rfl
  · have hservice : c'.service = (c.service.beginRun r).1 := by
      split at h <;> (next heq => cases h; rw [heq])
    refine .of_core hservice hcore (fun _ => rfl) fun x hx => ?_
    obtain rfl : x = record := Option.some.inj (hx.symm.trans hrecord)
    exact .began hstate

theorem callBody_changes (h : c.act (.callBody r) = some c') : Changes c (.callBody r) c' := by
  simp only [act] at h
  split at h
  · have hentered := c.service.enterBody_core r
    split at h
    next s heq =>
      cases h
      rw [heq] at hentered
      exact .of_core rfl hentered (fun _ => rfl) fun _ _ => .called
    next s heq =>
      cases h
      rw [heq] at hentered
      have hrecords : s.records = c.service.records.modify r (·.enterBody.1) :=
        congrArg (fun s => s.records) hentered
      have hend : s.clockEnd = c.service.clockEnd := congrArg (fun s => s.clockEnd) hentered
      have hnow : s.now = c.service.now := congrArg (fun s => s.now) hentered
      have hspent : (s.completeRun r .spent).1.records = s.records.modify r _ :=
        congrArg (fun s => s.records) (s.completeRun_core r .spent)
      rw [hrecords, List.modify_modify_eq, hend, hnow] at hspent
      exact .changed hspent (fun _ _ => rfl) fun _ _ => .spent
  · cases h

theorem retrieve_changes (h : c.act (.retrieve i) = some c') : Changes c (.retrieve i) c' := by
  obtain ⟨stage, hstage, h⟩ := Option.bind_eq_some_iff.mp h
  obtain ⟨⟨s, stage'⟩, hstep, rfl⟩ := Option.map_eq_some_iff.mp h
  cases stage with
  | waiting r limit =>
    refine .of_same (by rw [retrievalStep_waiting hstep]) fun r' => ?_
    rw [takes, hstage]
  | taking r =>
    cases hstep
    refine .changed (r := r) rfl (fun r' hr => ?_) fun x _ => .taken ?_
    · rw [takes, hstage]
      exact beq_false_of_ne hr
    · rw [takes, hstage]
      exact beq_self_eq_true r
  | answered r outcome => cases hstep

/-- A deed adds a record, or does one section to one, or changes none. -/
theorem act_changes (h : c.act a = some c') : Changes c a c' := by
  cases a with
  | make recurrence trigger =>
    cases h
    exact .made recurrence trigger rfl fun _ => rfl
  | begin r => exact beginRun_changes h
  | callBody r => exact callBody_changes h
  | endBody r result =>
    simp only [act] at h
    split at h
    · cases h
      exact .of_core rfl (c.service.completeRun_core r _) (fun _ => rfl) fun _ _ => .ended result
    · cases h
  | cancel r mayInterrupt =>
    cases h
    exact .of_core rfl (c.service.cancelRecord_core r mayInterrupt) (fun _ => rfl)
      fun _ _ => .cancelled mayInterrupt
  | giveUp r =>
    cases h
    exact .of_core rfl (c.service.giveUp_core r) (fun _ => rfl) fun _ _ => .gaveUp
  | reject r reason =>
    cases h
    exact .of_core rfl (c.service.reject_core r reason) (fun _ => rfl) fun _ _ => .rejected reason
  | postpone r trigger =>
    cases h
    exact .of_core rfl rfl (fun _ => rfl) fun _ _ => .postponed trigger
  | noteHandoffFailure r =>
    cases h
    exact .of_core rfl rfl (fun _ => rfl) fun _ _ => .noted
  | retrieve i => exact retrieve_changes h
  | passTime _ | fetch _ _ | take _ =>
    cases h
    exact .of_same rfl fun _ => rfl

/-- A record that is there stays there. -/
theorem act_record (h : c.act a = some c') (hx : c.service.record? r = some x) :
    ∃ y, c'.service.record? r = some y ∧ Does c r x a y := by
  cases act_changes h with
  | made recurrence trigger hrecords htakes =>
    refine ⟨x, ?_, .spared (htakes r)⟩
    obtain ⟨hlt, -⟩ := List.getElem?_eq_some_iff.mp hx
    rw [System.record?, hrecords, List.getElem?_append_left hlt]
    exact hx
  | @changed r' g hrecords htakes hg =>
    have hrecord := System.record?_of_modify hrecords r
    by_cases hr : r' = r
    · subst hr
      rw [if_pos rfl, hx] at hrecord
      exact ⟨g x, hrecord, hg x hx⟩
    · rw [if_neg hr, hx] at hrecord
      exact ⟨x, hrecord, .spared (htakes r hr)⟩

/-- A record that is new waits, and has no outcome. -/
theorem act_made (h : c.act a = some c') (hnew : c.service.record? r = none)
    (hy : c'.service.record? r = some y) : y.state = .pending ∧ y.outcome = none := by
  cases act_changes h with
  | made recurrence trigger hrecords _ =>
    have hle := List.getElem?_eq_none_iff.mp hnew
    rw [System.record?, hrecords, List.getElem?_append_right hle, List.getElem?_singleton] at hy
    split at hy
    · cases hy
      exact ⟨rfl, rfl⟩
    · cases hy
  | changed hrecords _ _ =>
    rw [System.record?_of_modify hrecords, hnew] at hy
    split at hy <;> cases hy

theorem Does.of_takes (h : Does c r x a y) (htakes : c.takes r a = true) :
    y = x.collectOutcome.1 := by
  cases h with
  | spared hnot => rw [htakes] at hnot; cases hnot
  | taken _ => rfl
  | _ => cases htakes

theorem Does.passes (h : Does c r x a y) (htakes : c.takes r a = false) :
    Record.Passes a.verdict x y := by
  cases h with
  | spared _ => exact .stays rfl rfl
  | began hstate =>
    refine .goesOn ?_ rfl rfl
    rw [Record.isFinal, hstate]
    rfl
  | called => exact x.enterBody_passes _
  | spent => exact x.spent_passes _ _
  | ended result => exact x.complete_passes _ _ r result
  | cancelled mayInterrupt => exact x.cancel_passes mayInterrupt
  | gaveUp => exact x.giveUp_passes
  | rejected reason => exact x.reject_passes reason
  | postponed trigger => exact x.postpone_passes trigger _
  | noted => exact .stays rfl rfl
  | taken hyes => rw [htakes] at hyes; cases hyes

theorem Does.keeps (h : Does c r x a y) : Record.Keeps x y := by
  cases h with
  | spared _ => exact .refl x
  | began hstate =>
    refine ⟨rfl, rfl, fun hfinal => ?_⟩
    rw [Record.isFinal, hstate] at hfinal
    cases hfinal
  | called => exact x.enterBody_enters.keeps
  | spent => exact x.enterBody_enters.keeps.trans (x.enterBody.1.complete_completes _ _ _).keeps
  | ended result => exact (x.complete_completes _ _ _).keeps
  | cancelled mayInterrupt => exact (x.cancel_settles mayInterrupt).keeps
  | gaveUp => exact x.giveUp_settles.keeps
  | rejected reason => exact (x.reject_settles reason).keeps
  | postponed trigger => exact (x.postpone_settles trigger).keeps
  | noted => exact x.noteHandoffFailure_settles.keeps
  | taken _ => exact x.collectOutcome_settles.keeps

/-- The trigger of a record is moved while the record waits, or when a run of it comes round. -/
theorem Does.trigger (h : Does c r x a y) :
    y.trigger = x.trigger ∨
      (∃ trigger, a = .postpone r trigger ∧ x.state = .pending ∧ y.trigger = trigger) ∨
      (∃ value, a = .endBody r (.ok value) ∧ x.state = .running ∧ x.repeats = true ∧
        y.trigger = x.recurrence.nextRun c.service.clockEnd x.trigger c.service.now) := by
  cases h with
  | called => exact .inl x.enterBody_trigger
  | spent =>
    exact .inl ((x.enterBody.1.complete_spent_trigger _ _).trans x.enterBody_trigger)
  | ended result =>
    have htrigger := x.complete_trigger c.service.clockEnd c.service.now result
    split at htrigger
    next hmoved =>
      rw [Bool.and_eq_true, beq_iff_eq] at hmoved
      cases result with
      | error failure => cases hmoved.1
      | ok value =>
        cases hrecurrence : x.recurrence with
        | once =>
          rw [hrecurrence] at htrigger
          exact .inl htrigger
        | _ =>
          refine .inr (.inr ⟨value, rfl, hmoved.2, ?_, hrecurrence ▸ htrigger⟩)
          rw [Record.repeats, hrecurrence]
          rfl
    next => exact .inl htrigger
  | cancelled mayInterrupt => exact .inl (x.cancel_trigger mayInterrupt)
  | gaveUp => exact .inl x.giveUp_trigger
  | rejected reason => exact .inl (x.reject_trigger reason)
  | postponed trigger =>
    rcases x.postpone_trigger trigger with hsame | ⟨hstate, htrigger⟩
    · exact .inl hsame
    · exact .inr (.inl ⟨trigger, rfl, hstate, htrigger⟩)
  | _ => exact .inl rfl

/-- A record comes to wait again when a run of it has ended. -/
theorem Does.waits (h : Does c r x a y) (hpending : y.state = .pending) :
    x.state = .pending ∨ ∃ result, a = .endBody r result := by
  have hsettles : Record.Settles x y → x.state = .pending := by
    intro hsettles
    rcases hsettles.state with hsame | ⟨hstate, -⟩ | ⟨-, hcancelled⟩
    · exact hsame.symm.trans hpending
    · exact hstate
    · rw [hpending] at hcancelled
      cases hcancelled
  cases h with
  | spared _ => exact .inl hpending
  | began hstate => exact .inl hstate
  | called => exact .inl (x.enterBody_enters.state.symm.trans hpending)
  | spent =>
    have hstate := x.enterBody_enters.state
    rcases (x.enterBody.1.complete_completes c.service.clockEnd c.service.now .spent).state with
      ⟨-, hsame, -⟩ | ⟨-, hfinal, -⟩ | ⟨-, -, -, hafter⟩
    · exact .inl ((hsame.trans hstate).symm.trans hpending)
    · rw [Record.isFinal, hpending] at hfinal
      cases hfinal
    · rw [System.complete_spent] at hafter
      cases hafter
  | ended result => exact .inr ⟨result, rfl⟩
  | cancelled mayInterrupt => exact .inl (hsettles (x.cancel_settles mayInterrupt))
  | gaveUp => exact .inl (hsettles x.giveUp_settles)
  | rejected reason => exact .inl (hsettles (x.reject_settles reason))
  | postponed trigger => exact .inl (hsettles (x.postpone_settles trigger))
  | noted => exact .inl hpending
  | taken _ => exact .inl hpending

end Crowd

end TaskScheduler
