import Mathlib.Data.List.Basic
import TaskScheduler.Proofs.Outcome
import TaskScheduler.Thread

/-
  For which body a thread speaks when it is asked whether its task was interrupted.

  In a `Crew` some threads run records, also inside of one another: a thread that is idle, or in the
  middle of a body, may begin a run of any record on itself. A body returns or panics. Meanwhile
  anybody may do to the records what a crowd does. The thread has one slot, which is filled when a
  body is entered and emptied when one is left.

  `step_thread`, `thread_of_run`: a thread is what its crossings, the bodies it has entered and
  left, have made of it (`cross`). `act_flag`, `Flagged`: the flag of a record is set by a
  cancellation with an interruption while the record runs, and by nothing else.
  `thread_speaks_for_body_entered_last` puts the two together, and `outer_body_is_not_told` shows
  what is lost when a nested body is left.
-/
namespace TaskScheduler

/-- A thread comes into a body, or out of the innermost one. -/
inductive Crossing where
  | entered (record : Ref)
  | left
deriving DecidableEq, Repr

/-- The thread after a crossing. -/
def Thread.cross (t : Thread) : Crossing → Thread
  | .entered r => t.enter r
  | .left => t.leave

/-- What a thread is doing about a run. -/
inductive RunPhase (α : Type) where
  /-- Is idle, or in the middle of its innermost body. -/
  | acting
  /-- Has begun a run, and has not called the body yet. -/
  | entering (record : Ref)
  /-- Has left a body, and has not told the record yet. -/
  | leaving (record : Ref) (result : Except Failure α)

/-- A thread that runs records. -/
structure Runner (α : Type) where
  thread : Thread := {}
  phase : RunPhase α := .acting

/-- Threads that run records, among a crowd that does to the records whatever it likes. -/
structure Crew (α : Type) where
  crowd : Crowd α
  runners : List (Runner α)

/-- What can happen in a crew. -/
inductive CrewAct (α : Type) where
  /-- A thread of the crew, or anybody else, does something to a record. -/
  | deed (deed : Deed α)
  | begin (thread : Nat) (record : Ref)
  | enter (thread : Nat)
  /-- The innermost body of a thread returns or panics. -/
  | leave (thread : Nat) (result : Except Failure α)
  | complete (thread : Nat)

/-- The deed belongs to a run, which is done by a thread of a crew. -/
def Deed.isOfRun {α : Type} : Deed α → Bool
  | begin _ | callBody _ | endBody .. => true
  | _ => false

/-- The flag of a record is set. -/
def System.flagged {α : Type} (s : System α) (r : Ref) : Bool :=
  (s.record? r).any (·.interruptRequested)

/-! ## Crossings -/

namespace Thread

variable {crossings : List Crossing} {r : Ref}

theorem interrupted_iff {α : Type} {t : Thread} {s : System α} :
    t.interrupted s = true ↔ ∃ r, t.slot = some r ∧ s.flagged r = true :=
  Option.any_eq_true _ _

/-- The slot is filled if the last crossing was into a body. -/
theorem slot_iff : (crossings.foldl cross {}).slot = some r ↔
    crossings.getLast? = some (.entered r) := by
  rcases List.eq_nil_or_concat' crossings with rfl | ⟨before, last, rfl⟩
  · exact ⟨nofun, nofun⟩
  · rw [List.foldl_append, List.getLast?_concat]
    cases last with
    | entered r' =>
      rw [Option.some.injEq, Crossing.entered.injEq]
      exact Option.some_inj
    | left => exact ⟨nofun, nofun⟩

/-- The body that was entered last is the innermost one. -/
theorem head?_of_entered (h : crossings.getLast? = some (.entered r)) :
    (crossings.foldl cross {}).bodies.head? = some r := by
  obtain ⟨before, rfl⟩ := List.getLast?_eq_some_iff.mp h
  rw [List.foldl_append]
  rfl

end Thread

/-! ## The flag of a record -/

namespace Record

variable {α : Type}

theorem enterBody_flag (x : Record α) :
    x.enterBody.1.interruptRequested = x.interruptRequested := by
  unfold enterBody
  split <;> rfl

theorem complete_flag (x : Record α) (last now : Instant) (result : BodyResult α) :
    (x.complete last now result).1.interruptRequested = x.interruptRequested := by
  unfold complete
  split
  · split
    · split <;> rfl
    · rfl
    · rfl
  · rfl

theorem giveUp_flag (x : Record α) : x.giveUp.1.interruptRequested = x.interruptRequested := by
  unfold giveUp
  split <;> rfl

theorem reject_flag (x : Record α) (reason : String) :
    (x.reject reason).1.interruptRequested = x.interruptRequested := by
  unfold reject
  split <;> rfl

theorem postpone_flag (x : Record α) (trigger : Instant) :
    (x.postpone trigger).interruptRequested = x.interruptRequested := by
  unfold postpone
  split <;> rfl

/-- A cancellation sets the flag if it may interrupt and the record runs. The record is cancelled
then. -/
theorem cancel_flag (x : Record α) (mayInterrupt : Bool) :
    (x.cancel mayInterrupt).1.interruptRequested = x.interruptRequested ∨
      (mayInterrupt = true ∧ x.state = .running ∧
        (x.cancel mayInterrupt).1.interruptRequested = true ∧
        (x.cancel mayInterrupt).1.state = .cancelled) := by
  unfold cancel
  split
  next => exact .inl rfl
  next hstate =>
    cases mayInterrupt with
    | true => exact .inr ⟨rfl, hstate, Bool.or_true _, rfl⟩
    | false =>
      left
      split
      · exact Bool.or_false _
      · rfl
  next => exact .inl rfl

theorem cancel_interrupts {x : Record α} (h : x.state = .running) :
    (x.cancel true).1.interruptRequested = true := by
  rw [cancel, h]
  exact Bool.or_true _

end Record

namespace Crowd

variable {α : Type} {c c' : Crowd α} {a : Deed α} {r : Ref} {x y : Record α}

/-- The record that is cancelled with an interruption while it runs. -/
def interruptions (c : Crowd α) : Deed α → List Ref
  | .cancel r true => if c.service.state? r = some .running then [r] else []
  | _ => []

theorem mem_interruptions :
    r ∈ c.interruptions a ↔ a = .cancel r true ∧ c.service.state? r = some .running := by
  cases a with
  | cancel r' mayInterrupt =>
    cases mayInterrupt with
    | true =>
      rw [interruptions, Deed.cancel.injEq]
      split
      next hstate =>
        rw [List.mem_singleton]
        exact ⟨fun h => ⟨⟨h.symm, rfl⟩, h ▸ hstate⟩, fun h => h.1.1.symm⟩
      next hnot => exact ⟨nofun, fun h => absurd (h.1.1 ▸ h.2) hnot⟩
    | false => exact ⟨nofun, nofun⟩
  | _ => exact ⟨nofun, nofun⟩

/-- A deed leaves the flag of a record as it is, or is a cancellation with an interruption while the
record runs. -/
theorem Does.flag (h : Does c r x a y) :
    y.interruptRequested = x.interruptRequested ∨
      (a = .cancel r true ∧ x.state = .running ∧ y.interruptRequested = true ∧
        y.state = .cancelled) := by
  cases h with
  | called => exact .inl x.enterBody_flag
  | spent => exact .inl ((Record.complete_flag _ _ _ _).trans x.enterBody_flag)
  | ended result => exact .inl (x.complete_flag _ _ _)
  | cancelled mayInterrupt =>
    rcases x.cancel_flag mayInterrupt with hsame | ⟨rfl, hrunning, hset, hcancelled⟩
    · exact .inl hsame
    · exact .inr ⟨rfl, hrunning, hset, hcancelled⟩
  | gaveUp => exact .inl x.giveUp_flag
  | rejected reason => exact .inl (x.reject_flag reason)
  | postponed trigger => exact .inl (x.postpone_flag trigger)
  | _ => exact .inl rfl

/-- A record that has just been made has no flag. -/
theorem act_unflagged (h : c.act a = some c') (hnew : c.service.record? r = none)
    (hy : c'.service.record? r = some y) : y.interruptRequested = false := by
  cases act_changes h with
  | made recurrence trigger hrecords _ =>
    have hle := List.getElem?_eq_none_iff.mp hnew
    rw [System.record?, hrecords, List.getElem?_append_right hle, List.getElem?_singleton] at hy
    split at hy
    · cases hy
      rfl
    · cases hy
  | changed hrecords _ _ =>
    rw [System.record?_of_modify hrecords, hnew] at hy
    split at hy <;> cases hy

/-- A cancellation with an interruption sets the flag of a record that runs. -/
theorem act_interrupts (h : c.act (.cancel r true) = some c') (hx : c.service.record? r = some x)
    (hrunning : x.state = .running) : c'.service.flagged r = true := by
  cases h
  have hrecords : (c.service.cancelRecord r true).1.records =
      c.service.records.modify r fun x => (x.cancel true).1 :=
    congrArg (fun s => s.records) (c.service.cancelRecord_core r true)
  rw [System.flagged, System.record?_of_modify hrecords, if_pos rfl, hx]
  exact Record.cancel_interrupts hrunning

/-- The flag of a record is set by a cancellation with an interruption while the record runs, and by
nothing else. -/
theorem act_flag (h : c.act a = some c') (r : Ref) :
    c'.service.flagged r = true ↔ c.service.flagged r = true ∨ r ∈ c.interruptions a := by
  rw [mem_interruptions]
  cases hx : c.service.record? r with
  | none =>
    have hstate : c.service.state? r = none := by rw [System.state?, hx]; rfl
    have hflag : c.service.flagged r = false := by rw [System.flagged, hx]; rfl
    rw [hstate, hflag]
    constructor
    · intro hset
      obtain ⟨y, hy, hset⟩ := (Option.any_eq_true _ _).mp hset
      rw [act_unflagged h hx hy] at hset
      cases hset
    · rintro (hset | ⟨-, hrunning⟩)
      · cases hset
      · cases hrunning
  | some x =>
    obtain ⟨y, hy, hdoes⟩ := act_record h hx
    have hstate : c.service.state? r = some x.state := by rw [System.state?, hx]; rfl
    have hflag : c.service.flagged r = x.interruptRequested := by rw [System.flagged, hx]; rfl
    have hflag' : c'.service.flagged r = y.interruptRequested := by rw [System.flagged, hy]; rfl
    rw [hstate, Option.some.injEq]
    constructor
    · intro hset
      rcases hdoes.flag with hsame | ⟨ha, hrunning, -, -⟩
      · exact .inl (by rw [hflag, ← hsame, ← hflag', hset])
      · exact .inr ⟨ha, hrunning⟩
    · rintro (hset | ⟨rfl, hrunning⟩)
      · rcases hdoes.flag with hsame | ⟨-, -, hset', -⟩
        · rw [hflag', hsame, ← hflag, hset]
        · exact hflag'.trans hset'
      · exact act_interrupts h hx hrunning

/-- A record whose flag is set is cancelled. -/
def FlagsTell (s : System α) : Prop :=
  ∀ r x, s.record? r = some x → x.interruptRequested = true → x.state = .cancelled

theorem act_flagsTell (htell : FlagsTell c.service) (h : c.act a = some c') :
    FlagsTell c'.service := by
  intro r y hy hset
  cases hx : c.service.record? r with
  | none =>
    rw [act_unflagged h hx hy] at hset
    cases hset
  | some x =>
    obtain ⟨y', hy', hdoes⟩ := act_record h hx
    obtain rfl : y' = y := Option.some.inj (hy'.symm.trans hy)
    rcases hdoes.flag with hsame | ⟨-, -, -, hcancelled⟩
    · have hbefore := htell r x hx (hsame.symm.trans hset)
      have hfinal : x.isFinal = true := by rw [Record.isFinal, hbefore]; rfl
      rw [hdoes.keeps.final hfinal, hbefore]
    · exact hcancelled

end Crowd

/-! ## Threads that run records -/

namespace Crew

variable {α : Type} {c c' : Crew α} {a : CrewAct α} {r : Ref} {i : Nat} {runner : Runner α}

/-- A service without records, and threads that are idle. -/
def initial (host : Host) (name : String) (config : ServiceConfig) (clockEnd now : Instant)
    (threads : Nat) :
    Crew α where
  crowd := .initial host name config clockEnd now
  runners := List.replicate threads {}

/-- One of the threads has acted. -/
def turn (c : Crew α) (i : Nat) (crowd : Crowd α) (thread : Thread) (phase : RunPhase α) : Crew α :=
  { crowd, runners := c.runners.set i { thread, phase } }

/-- The crew after an act, or `none` if it cannot be done now. A run of a record that does not wait
is over before it has begun, and one that finds no body to call goes into the body and out. -/
def act (c : Crew α) : CrewAct α → Option (Crew α)
  | .deed d => if d.isOfRun then none else (c.crowd.act d).map fun crowd => { c with crowd }
  | .begin i r =>
    match c.runners[i]? with
    | some ⟨thread, .acting⟩ =>
      (c.crowd.act (.begin r)).map fun crowd =>
        c.turn i crowd thread (if c.crowd.service.isPending r then .entering r else .acting)
    | _ => none
  | .enter i =>
    match c.runners[i]? with
    | some ⟨thread, .entering r⟩ =>
      (c.crowd.act (.callBody r)).map fun crowd =>
        c.turn i crowd (if (c.crowd.service.enterBody r).2 then thread.enter r
          else (thread.enter r).leave) .acting
    | _ => none
  | .leave i result =>
    match c.runners[i]? with
    | some ⟨thread, .acting⟩ =>
      thread.bodies.head?.map fun r => c.turn i c.crowd thread.leave (.leaving r result)
    | _ => none
  | .complete i =>
    match c.runners[i]? with
    | some ⟨thread, .leaving r result⟩ =>
      (c.crowd.act (.endBody r result)).map fun crowd => c.turn i crowd thread .acting
    | _ => none

/-- The crossings that a thread makes in an act. -/
def crossings (i : Nat) (c : Crew α) (a : CrewAct α) (_ : Crew α) : List Crossing :=
  match a with
  | .enter j =>
    match c.runners[j]? with
    | some ⟨_, .entering r⟩ =>
      if j = i then
        if (c.crowd.service.enterBody r).2 then [.entered r] else [.entered r, .left]
      else []
    | _ => []
  | .leave j _ => if j = i then [.left] else []
  | _ => []

/-- The record that is cancelled with an interruption in an act, while it runs. -/
def interruptions (c : Crew α) (a : CrewAct α) (_ : Crew α) : List Ref :=
  match a with
  | .deed d => c.crowd.interruptions d
  | _ => []

theorem turn_runner {crowd : Crowd α} {thread : Thread} {phase : RunPhase α} {j : Nat}
    (hbefore : c.runners[j]? = some runner)
    {runner' : Runner α} (h : (c.turn j crowd thread phase).runners[i]? = some runner') :
    (j = i ∧ runner'.thread = thread ∧ c.runners[i]? = some runner) ∨
      (j ≠ i ∧ c.runners[i]? = some runner') := by
  rw [turn, List.getElem?_set] at h
  split at h
  next heq =>
    subst heq
    split at h
    · cases h
      exact .inl ⟨rfl, rfl, hbefore⟩
    · cases h
  next hne => exact .inr ⟨hne, h⟩

/-- What an act makes of a thread: its crossings. -/
theorem act_thread {runner' : Runner α} (h : c.act a = some c')
    (hrunner : c'.runners[i]? = some runner') :
    ∃ runner, c.runners[i]? = some runner ∧
      runner'.thread = (crossings i c a c').foldl Thread.cross runner.thread := by
  cases a with
  | deed d =>
    simp only [act] at h
    split at h
    · cases h
    · obtain ⟨crowd, -, rfl⟩ := Option.map_eq_some_iff.mp h
      exact ⟨runner', hrunner, rfl⟩
  | begin j r =>
    simp only [act] at h
    split at h
    next thread hbefore =>
      obtain ⟨crowd, -, rfl⟩ := Option.map_eq_some_iff.mp h
      rcases turn_runner hbefore hrunner with ⟨-, hthread, hsame⟩ | ⟨-, hsame⟩
      · exact ⟨_, hsame, hthread⟩
      · exact ⟨_, hsame, rfl⟩
    next => cases h
  | enter j =>
    simp only [act] at h
    split at h
    next thread r hbefore =>
      obtain ⟨crowd, -, rfl⟩ := Option.map_eq_some_iff.mp h
      simp only [crossings, hbefore]
      rcases turn_runner hbefore hrunner with ⟨rfl, hthread, hsame⟩ | ⟨hne, hsame⟩
      · refine ⟨_, hsame, hthread.trans ?_⟩
        rw [if_pos rfl]
        split <;> rfl
      · rw [if_neg hne]
        exact ⟨_, hsame, rfl⟩
    next => cases h
  | leave j result =>
    simp only [act] at h
    split at h
    next thread hbefore =>
      obtain ⟨r, -, rfl⟩ := Option.map_eq_some_iff.mp h
      rw [crossings]
      rcases turn_runner hbefore hrunner with ⟨rfl, hthread, hsame⟩ | ⟨hne, hsame⟩
      · rw [if_pos rfl]
        exact ⟨_, hsame, hthread⟩
      · rw [if_neg hne]
        exact ⟨_, hsame, rfl⟩
    next => cases h
  | complete j =>
    simp only [act] at h
    split at h
    next thread r result hbefore =>
      obtain ⟨crowd, -, rfl⟩ := Option.map_eq_some_iff.mp h
      rcases turn_runner hbefore hrunner with ⟨-, hthread, hsame⟩ | ⟨-, hsame⟩
      · exact ⟨_, hsame, hthread⟩
      · exact ⟨_, hsame, rfl⟩
    next => cases h

/-- What an act does to the records is a deed, or nothing. -/
theorem act_crowd (h : c.act a = some c') :
    (c'.crowd = c.crowd ∧ interruptions c a c' = []) ∨
      ∃ d, c.crowd.act d = some c'.crowd ∧ interruptions c a c' = c.crowd.interruptions d := by
  cases a with
  | deed d =>
    simp only [act] at h
    split at h
    · cases h
    · obtain ⟨crowd, hdeed, rfl⟩ := Option.map_eq_some_iff.mp h
      exact .inr ⟨d, hdeed, rfl⟩
  | leave j result =>
    simp only [act] at h
    split at h
    · obtain ⟨r, -, rfl⟩ := Option.map_eq_some_iff.mp h
      exact .inl ⟨rfl, rfl⟩
    · cases h
  | begin j r =>
    simp only [act] at h
    split at h
    · obtain ⟨crowd, hdeed, rfl⟩ := Option.map_eq_some_iff.mp h
      exact .inr ⟨_, hdeed, rfl⟩
    · cases h
  | enter j =>
    simp only [act] at h
    split at h
    · obtain ⟨crowd, hdeed, rfl⟩ := Option.map_eq_some_iff.mp h
      exact .inr ⟨_, hdeed, rfl⟩
    · cases h
  | complete j =>
    simp only [act] at h
    split at h
    · obtain ⟨crowd, hdeed, rfl⟩ := Option.map_eq_some_iff.mp h
      exact .inr ⟨_, hdeed, rfl⟩
    · cases h

/-! ## Runs of a crew -/

/-- What a run of the crew has made of a thread and of the flags: the thread is what its crossings
have made of it, the flags are those of the records that were cancelled with an interruption while
they ran, and they tell that the record is cancelled. -/
structure Told (c : Crew α) (crossed : Nat → List Crossing) (interrupted : List Ref) : Prop where
  thread : ∀ i runner, c.runners[i]? = some runner →
    runner.thread = (crossed i).foldl Thread.cross {}
  flag : ∀ r, c.crowd.service.flagged r = true ↔ r ∈ interrupted
  tell : Crowd.FlagsTell c.crowd.service

theorem Told.act {crossed : Nat → List Crossing} {interrupted : List Ref}
    (h : Told c crossed interrupted) (hact : c.act a = some c') :
    Told c' (fun i => crossed i ++ crossings i c a c')
      (interrupted ++ interruptions c a c') := by
  refine ⟨fun i runner' hrunner' => ?_, fun r => ?_, ?_⟩
  · obtain ⟨runner, hrunner, hthread⟩ := act_thread hact hrunner'
    rw [hthread, h.thread i runner hrunner, List.foldl_append]
  · rw [List.mem_append]
    rcases act_crowd hact with ⟨hsame, hnone⟩ | ⟨d, hdeed, hinterrupts⟩
    · rw [hsame, hnone, h.flag r]
      exact ⟨.inl, fun hr => hr.resolve_right List.not_mem_nil⟩
    · rw [Crowd.act_flag hdeed, hinterrupts, h.flag r]
  · rcases act_crowd hact with ⟨hsame, -⟩ | ⟨d, hdeed, -⟩
    · rw [hsame]
      exact h.tell
    · exact Crowd.act_flagsTell h.tell hdeed

theorem told_of_initial (host : Host) (name : String) (config : ServiceConfig)
    (clockEnd now : Instant)
    (threads : Nat) :
    Told (initial host name config clockEnd now threads : Crew α) (fun _ => []) [] := by
  have hempty : ∀ r,
      (initial host name config clockEnd now threads : Crew α).crowd.service.record? r =
      none := fun r => rfl
  constructor
  case thread =>
    intro i runner hrunner
    rw [initial, List.getElem?_replicate] at hrunner
    split at hrunner
    · cases hrunner
      rfl
    · cases hrunner
  case flag =>
    intro r
    simp [System.flagged, hempty]
  case tell =>
    intro r x hx
    rw [hempty] at hx
    cases hx

theorem told_of_run {name : String} {config : ServiceConfig} {clockEnd now : Instant}
    {threads : Nat} {acts : List (CrewAct α)}
    (hrun : acts.foldlM act (initial host name config clockEnd now threads) = some c) :
    Told c (fun i => notes act (crossings i) (initial host name config clockEnd now threads) acts)
      (notes act interruptions (initial host name config clockEnd now threads) acts) := by
  refine run_induction (P := fun acts c => Told c
      (fun i => notes act (crossings i) (initial host name config clockEnd now threads) acts)
      (notes act interruptions (initial host name config clockEnd now threads) acts))
    (told_of_initial host name config clockEnd now threads) (fun hbefore htold hact => ?_) hrun
  have hnext := htold.act hact
  simp only [notes_concat hbefore hact]
  exact hnext

/-- What a thread says when it is asked whether its task was interrupted, whatever its bodies and
everybody else do, and however deep the bodies are nested. It says yes if and only if the innermost
body is that of a record that was cancelled with an interruption while it ran, and that body is the
one which was entered last: none that was run inside of it has been left since. Outside of any body
it says no, whether the last one returned or panicked. The flag of a record is set if and only if
the record was cancelled so, and then the record is cancelled. -/
theorem thread_speaks_for_body_entered_last (host : Host) (name : String) (config : ServiceConfig)
    (clockEnd now : Instant) (threads : Nat) {acts : List (CrewAct α)}
    (hrun : acts.foldlM act (initial host name config clockEnd now threads) = some c) :
    (∀ i runner, c.runners[i]? = some runner →
      (runner.thread.interrupted c.crowd.service = true ↔ ∃ r,
        runner.thread.bodies.head? = some r ∧
        r ∈ notes act interruptions (initial host name config clockEnd now threads) acts ∧
        (notes act (crossings i) (initial host name config clockEnd now threads) acts).getLast? =
          some (.entered r)) ∧
      (runner.thread.bodies = [] → runner.thread.interrupted c.crowd.service = false)) ∧
    ∀ r x, c.crowd.service.record? r = some x →
      (x.interruptRequested = true ↔
        r ∈ notes act interruptions (initial host name config clockEnd now threads) acts) ∧
      (x.interruptRequested = true → x.state = .cancelled) := by
  have htold := told_of_run hrun
  refine ⟨fun i runner hrunner => ?_, fun r x hx => ⟨?_, htold.tell r x hx⟩⟩
  · have hiff : runner.thread.interrupted c.crowd.service = true ↔ ∃ r,
        runner.thread.bodies.head? = some r ∧
        r ∈ notes act interruptions (initial host name config clockEnd now threads) acts ∧
        (notes act (crossings i) (initial host name config clockEnd now threads) acts).getLast? =
          some (.entered r) := by
      rw [Thread.interrupted_iff, htold.thread i runner hrunner]
      constructor
      · rintro ⟨r, hslot, hflag⟩
        have hlast := Thread.slot_iff.mp hslot
        exact ⟨r, Thread.head?_of_entered hlast, (htold.flag r).mp hflag, hlast⟩
      · rintro ⟨r, -, hinterrupted, hlast⟩
        exact ⟨r, Thread.slot_iff.mpr hlast, (htold.flag r).mpr hinterrupted⟩
    refine ⟨hiff, fun hnone => Bool.eq_false_iff.mpr fun hyes => ?_⟩
    obtain ⟨r, hhead, -⟩ := hiff.mp hyes
    rw [hnone] at hhead
    cases hhead
  · rw [← htold.flag r, System.flagged, hx]
    rfl

/-- A thread runs a record, and the body cancels its own record with an interruption. -/
def interruptedRun : List (CrewAct Unit) :=
  [.deed (.make .once 0), .deed (.make .once 0), .begin 0 0, .enter 0, .deed (.cancel 0 true)]

theorem interrupted_body_is_told :
    ∃ (c : Crew Unit) (runner : Runner Unit),
      interruptedRun.foldlM act (initial .lenient "service" (.ofProcessors 1) 100 0 1) = some c ∧
      c.runners[0]? = some runner ∧ runner.thread.bodies.head? = some 0 ∧
      runner.thread.interrupted c.crowd.service = true := by
  have hruns : (interruptedRun.foldlM act
      (initial .lenient "service" (.ofProcessors 1) 100 0 1)).any (fun c => (c.runners[0]?).any fun runner =>
        decide (runner.thread.bodies.head? = some 0)) = true := by decide +kernel
  simp only [Option.any_eq_true, decide_eq_true_eq] at hruns
  obtain ⟨c, hrun, runner, hrunner, hhead⟩ := hruns
  obtain ⟨hthreads, -⟩ :=
    thread_speaks_for_body_entered_last .lenient "service" (.ofProcessors 1) 100 0 1 hrun
  exact ⟨c, runner, hrun, hrunner, hhead, (hthreads 0 runner hrunner).1.mpr
    ⟨0, hhead, by decide +kernel, by decide +kernel⟩⟩

/-- The body goes on to run another record inline, whose body panics. -/
def nestedRun : List (CrewAct Unit) :=
  interruptedRun ++ [.begin 0 1, .enter 0, .leave 0 (.error ⟨.literal "boom"⟩), .complete 0]

/-- The thread is still in the body of the record that was cancelled with an interruption while it
ran, and says that it was not interrupted. -/
theorem outer_body_is_not_told :
    ∃ (c : Crew Unit) (runner : Runner Unit),
      nestedRun.foldlM act (initial .lenient "service" (.ofProcessors 1) 100 0 1) = some c ∧
      c.runners[0]? = some runner ∧ runner.thread.bodies.head? = some 0 ∧
      0 ∈ notes act interruptions (initial .lenient "service" (.ofProcessors 1) 100 0 1) nestedRun ∧
      runner.thread.interrupted c.crowd.service = false := by
  have hruns : (nestedRun.foldlM act (initial .lenient "service" (.ofProcessors 1) 100 0 1)).any
      (fun c => (c.runners[0]?).any fun runner => decide (runner.thread.bodies.head? = some 0 ∧
        runner.thread.interrupted c.crowd.service = false)) = true := by decide +kernel
  simp only [Option.any_eq_true, decide_eq_true_eq] at hruns
  obtain ⟨c, hrun, runner, hrunner, hhead, hsays⟩ := hruns
  exact ⟨c, runner, hrun, hrunner, hhead, by decide +kernel, hsays⟩

end Crew

end TaskScheduler
