import TaskScheduler.Proofs.Places
import TaskScheduler.Proofs.Pool.Factory
import TaskScheduler.Proofs.Refusal

/-
  No loss and no duplication of records.

  `Passes`: what any move may do to the places of a record, and of the calls that carry it. `Held`:
  a record whose submission has got it in is held somewhere, or it is terminal, or a worker that was
  refused a pump for it is about to reject it. `Sole`: it is held at most once, as long as no
  factory lets a panic through. `record_is_held_once` puts both together.
-/
namespace TaskScheduler

/-- The owner sets no factory that lets a panic through the operation that needs a worker. -/
def Action.Contained {α : Type} : Action α → Prop
  | setFactory factory => factory.Contained
  | _ => True

namespace System

variable {α : Type} {s t : System α} {a : Action α} {duty duty' : Duty} {r : Ref}

/-! ## Moves -/

theorem CallMove.accepted (h : CallMove s duty t duty') (hr : r ∈ t.accepted) :
    r ∈ s.accepted ∨ duty.admits r = true := by
  cases h with
  | counted _ =>
    rcases List.mem_append.mp hr with hold | hnew
    · exact .inl hold
    · rw [List.mem_singleton.mp hnew]
      exact .inr (beq_self_eq_true _)
  | _ => exact .inl hr

/-- The submission of the record has been accepted, or is about to be. -/
def Admitted (s : System α) (r : Ref) : Prop := r ∈ s.accepted ∨ 0 < s.owing (·.admits r)

/-- What any move may do to the places of a record. -/
structure Passes (s t : System α) (r : Ref) : Prop where
  kept : 0 < s.places r → t.Safe r ∨ 0 < s.owing (·.retracts r)
  bounded : t.places r + t.arriving r ≤ s.places r + s.arriving r ∨
    (t.places r + t.arriving r = s.places r + s.arriving r + 1 ∧
      ((r = s.records.length ∧ r < t.records.length) ∨ Doubles s t r))
  admitted : t.Admitted r → s.Admitted r ∨ (0 < s.arriving r ∧ t.Safe r)

theorem Passes.of_call {u : System α} (h : CallMove s duty u duty') (hs : Numbered s)
    (howes : Discharges s t duty duty') (ht : t = { u with calls := t.calls }) (r : Ref) :
    Passes s t r := by
  have hmoves := h.moves hs howes.owner r
  have hplaces : t.places r = u.places r := by rw [ht]; rfl
  have hsafe : u.Safe r → t.Safe r := by rw [ht]; exact fun hu => hu
  have hretracts : duty.retracts r = true → 0 < s.owing (·.retracts r) := by
    intro hduty
    have hle := howes.le (f := (·.retracts r)) rfl
    rw [hduty, Bool.toNat_true] at hle
    exact hle
  have hrecords : t.records = u.records := by rw [ht]
  have haccepted : t.accepted = u.accepted := by rw [ht]
  have hcarries : t.arriving r + (duty == .carrying r).toNat =
    s.arriving r + (duty' == .carrying r).toNat := howes.count (· == .carrying r) rfl
  have hadmits := howes.count (·.admits r) rfl
  have hle := howes.le (f := (·.admits r)) rfl
  have hle' : (duty == .carrying r).toNat ≤ s.arriving r :=
    howes.le (f := (· == .carrying r)) rfl
  refine ⟨fun hpos => (hmoves.kept hpos).imp hsafe hretracts, ?_, ?_⟩
  · rw [hplaces, hrecords]
    rcases hmoves.bounded with hbound | ⟨hr, hlt, hbound⟩
    · exact .inl (by omega)
    · cases hfree : duty == .carrying r with
      | true =>
        rw [hfree, Bool.toNat_true] at hcarries
        exact .inl (by omega)
      | false =>
        rw [hfree, Bool.toNat_false] at hcarries
        exact .inr ⟨by omega, .inl ⟨hr, hlt⟩⟩
  · have hduty : duty.admits r = true → s.Admitted r := by
      intro hd
      rw [hd, Bool.toNat_true] at hle
      exact .inr hle
    rintro (hacc | howing)
    · rw [haccepted] at hacc
      exact .inl ((h.accepted hacc).elim .inl hduty)
    · cases hd : duty'.admits r with
      | true =>
        rcases hmoves.admitted hd with hbefore | ⟨hcarry, hu⟩
        · exact .inl (hduty hbefore)
        · rw [hcarry, Bool.toNat_true] at hle'
          exact .inr ⟨hle', hsafe hu⟩
      | false =>
        rw [hd, Bool.toNat_false] at hadmits
        exact .inl (.inr (by omega))

theorem Passes.of_moves (h : Moves s t r) (hcalls : t.calls = s.calls)
    (haccepted : t.accepted = s.accepted) : Passes s t r where
  kept hpos := .inl (h.kept hpos)
  bounded := by
    have hbound := h.bounded
    refine .inl ?_
    rw [arriving, arriving, owing, owing, hcalls]
    omega
  admitted := by
    unfold Admitted owing
    rw [hcalls, haccepted]
    exact .inl

theorem Move.passes (h : Move s a t) (hs : Numbered s) (hatt : ∀ r, Attended s r) (r : Ref) :
    Passes s t r := by
  rcases h.kinds with ⟨u, _, _, hcall, howes, ht⟩ | hpump | hworker | howner | ⟨now, rfl⟩
  · exact .of_call hcall hs howes ht r
  · have haccepted : t.accepted = s.accepted := by cases hpump <;> rfl
    rcases hpump.moves hs r with hmoves | hdoubles
    · exact .of_moves hmoves hpump.calls haccepted
    · have hcalls := hpump.calls
      have hplaces := hdoubles.places
      refine ⟨fun _ => .inl (.inl (by omega)), .inr ⟨?_, .inr hdoubles⟩, ?_⟩
      · rw [arriving, arriving, owing, owing, hcalls]
        omega
      · unfold Admitted owing
        rw [hcalls, haccepted]
        exact .inl
  · exact .of_moves (hworker.moves hs hatt r) hworker.calls (by cases hworker <;> rfl)
  · exact .of_moves (howner.moves r) (by cases howner <;> rfl) (by cases howner <;> rfl)
  · exact .of_moves (.of_eq rfl) rfl rfl

/-! ## No loss -/

/-- A record that waits, and whose submission has got it in, is held somewhere, or a worker is about
to reject it. -/
structure Held (s : System α) (r : Ref) : Prop where
  known : 0 < s.places r + s.arriving r ∨ s.Admitted r → r < s.records.length
  kept : s.Admitted r → 0 < s.places r ∨ 0 < s.condemned r ∨ s.isFinal r = true

/-- A worker at the body of a record has it in hand. -/
theorem bodies_le_holds (s : System α) (r : Ref) : s.bodies r ≤ s.pool.holds r := by
  have hhands : s.bodies r ≤ s.pool.hands r := by
    refine List.countP_mono_left fun w _ => ?_
    cases w.phase <;> first | exact fun h => h | nofun
  exact Nat.le_trans hhands (Nat.le_add_left _ _)

theorem bodies_le_places (s : System α) (r : Ref) : s.bodies r ≤ s.places r :=
  Nat.le_trans (s.bodies_le_holds r) (Nat.le_add_left _ _)

theorem Safe.held (h : t.Safe r) (hatt : Attended t r) (hknown : r < t.records.length) :
    0 < t.places r ∨ 0 < t.condemned r ∨ t.isFinal r = true := by
  rcases h with hpos | hdoomed | hpending
  · exact .inl hpos
  · exact .inr (.inl hdoomed)
  · have hx : t.record? r = some t.records[r] := List.getElem?_eq_getElem hknown
    cases hstate : t.records[r].state with
    | pending =>
      rw [isPending_iff.mpr ⟨_, hx, hstate⟩] at hpending
      cases hpending
    | running =>
      have hone := hatt.running (state?_eq_some.mpr ⟨_, hx, hstate⟩)
      have hle := t.bodies_le_places r
      exact .inl (by omega)
    | cancelled | done | failed =>
      exact .inr (.inr (isFinal_iff.mpr ⟨_, hx, by rw [Record.isFinal, hstate]; rfl⟩))

/-- Who submits a record has made it and put it nowhere yet, or has got it in, or is about to
fail. -/
theorem owing_submits (s : System α) (r : Ref) :
    s.owing (·.submits r) =
      s.arriving r + (s.owing (·.admits r) + s.owing (·.retracts r)) := by
  have hsplit : s.owing (fun duty => duty.admits r || duty.retracts r) =
      s.owing (·.admits r) + s.owing (·.retracts r) := by
    refine countP_eq_add (fun call => ?_) s.calls
    cases call.duty with
    | launching record => cases record <;> simp [Duty.admits, Duty.retracts]
    | _ => simp [Duty.admits, Duty.retracts]
  rw [← hsplit]
  refine countP_eq_add (fun call => ?_) s.calls
  cases call.duty with
  | carrying r' =>
    show (r' == r).toNat = (Duty.carrying r' == Duty.carrying r).toNat + 0
    rw [carrying_beq, Nat.add_zero]
  | launching record =>
    cases record with
    | none => rfl
    | some filed =>
      show (filed.1 == r).toNat = 0 + (filed.1 == r || false).toNat
      rw [Bool.or_false, Nat.zero_add]
  | counting r' =>
    show (r' == r).toNat = 0 + (r' == r || false).toNat
    rw [Bool.or_false, Nat.zero_add]
  | retracting r' k => exact (Nat.zero_add _).symm
  | _ => rfl

/-- Where a call takes a record out again, it was the one that submitted it. -/
theorem Reachable.not_admitted (h : Reachable s) (hpos : 0 < s.owing (·.retracts r)) :
    ¬s.Admitted r := by
  have honce := h.submitted_once r
  rw [submissions, owing_submits] at honce
  rintro (haccepted | hadmits)
  · have := List.count_pos_iff.mpr haccepted
    omega
  · omega

theorem Held.move (h : Held s r) (hs : Reachable s) (hpasses : Passes s t r) (hmove : Move s a t)
    (hatt : Attended t r) : Held t r := by
  have hkeeps := hmove.keeps
  have hgrows := hkeeps.length_le
  have hknown : 0 < t.places r + t.arriving r ∨ t.Admitted r → r < t.records.length := by
    rintro (hpos | hadmitted)
    · rcases hpasses.bounded with hbound | ⟨-, ⟨-, hlt⟩ | hdoubles⟩
      · exact Nat.lt_of_lt_of_le (h.known (.inl (by omega))) hgrows
      · exact hlt
      · have hheld := hdoubles.held
        exact Nat.lt_of_lt_of_le (h.known (.inl (by omega))) hgrows
    · rcases hpasses.admitted hadmitted with hbefore | ⟨harriving, -⟩
      · exact Nat.lt_of_lt_of_le (h.known (.inr hbefore)) hgrows
      · exact Nat.lt_of_lt_of_le (h.known (.inl (by omega))) hgrows
  refine ⟨hknown, fun hadmitted => ?_⟩
  have hlt := hknown (.inr hadmitted)
  rcases hpasses.admitted hadmitted with hbefore | ⟨-, hsafe⟩
  · rcases h.kept hbefore with hpos | hdoomed | hfinal
    · rcases hpasses.kept hpos with hsafe | hretracted
      · exact hsafe.held hatt hlt
      · exact absurd hbefore (hs.not_admitted hretracted)
    · exact Safe.held (.inr (hmove.condemned hdoomed)) hatt hlt
    · exact .inr (.inr (hkeeps.isFinal hfinal))
  · exact hsafe.held hatt hlt

theorem Reachable.held (h : Reachable s) (r : Ref) : Held s r := by
  refine h.of_moves (P := fun s => Held s r) ?_ ?_ ?_
  · intro u
    exact propext ⟨fun h => ⟨h.known, h.kept⟩, fun h => ⟨h.known, h.kept⟩⟩
  · intro host name config clockEnd now
    refine ⟨?_, ?_⟩
    · rintro (hpos | hacc | howing)
      · cases hpos
      · cases hacc
      · cases howing
    · rintro (hacc | howing)
      · cases hacc
      · cases howing
  · intro s t a hreach hs hmove
    exact hs.move hreach (hmove.passes hreach.numbered hreach.attended r) hmove
      (hmove.attended (hreach.attended r))

/-- What the pump has in hand is a record that has been made. -/
theorem Reachable.known_in_hand {phase : PumpPhase} (hs : Reachable s)
    (hpump : s.pump = some phase) (hrecord : phase.record? = some r) :
    ∃ x, s.record? r = some x := by
  have hplaces := places_of_record hpump hrecord r
  rw [beq_self_eq_true, Bool.toNat_true] at hplaces
  have hlt := (hs.held r).known (.inl (by omega))
  exact ⟨_, List.getElem?_eq_getElem hlt⟩

/-- A record that is not there yet is held nowhere. -/
theorem Reachable.unmade (h : Reachable s) (hnew : s.record? r = none) :
    s.places r + s.arriving r = 0 := by
  have hle := List.getElem?_eq_none_iff.mp hnew
  rcases Nat.eq_zero_or_pos (s.places r + s.arriving r) with hzero | hpos
  · exact hzero
  · exact absurd ((h.held r).known (.inl hpos)) (Nat.not_lt.mpr hle)

/-! ## No duplication -/

/-- Held at most once, and not at all while the call that has made the record carries it. -/
def Sole (s : System α) (r : Ref) : Prop := s.places r + s.arriving r ≤ 1

theorem Sole.move (h : Sole s r) (hheld : Held s r) (hpasses : Passes s t r)
    (hnot : ¬Doubles s t r) : Sole t r := by
  have hle : s.places r + s.arriving r ≤ 1 := h
  rcases hpasses.bounded with hbound | ⟨hplaces, ⟨hr, -⟩ | hdoubles⟩
  · exact Nat.le_trans hbound hle
  · -- The record has just been made, so nobody has had it before.
    rcases Nat.eq_zero_or_pos (s.places r + s.arriving r) with hzero | hpos
    · exact Nat.le_of_eq (by rw [hplaces, hzero])
    · exact absurd hr (Nat.ne_of_lt (hheld.known (.inl hpos)))
  · exact absurd hdoubles hnot

theorem Move.contained (h : Move s a t) (ha : a.Contained) (hs : s.pool.factory.Contained) :
    t.pool.factory.Contained := by
  have hsame : ∀ {u : System α}, u.pool.factory.start = s.pool.factory.start →
      u.pool.factory.Contained := by
    intro u hu attempt index failure
    rw [hu]
    exact hs attempt index failure
  cases h with
  | begun hmove => exact hsame hmove.setup.start
  | called _ hmove | callRefused _ hmove => exact hsame hmove.setup.start
  | pumped hmove | pumpIdled hmove | pumpFaulted hmove => exact hsame hmove.setup.2
  | worked hmove => exact hsame hmove.setup.start
  | resized size =>
    exact (hsame (u := { s with pool := (s.pool.setCoreSize size).pool })
      ((Pool.act_setup (.setCoreSize size) rfl).start nofun))
  | prestarted count =>
    exact (hsame (u := { s with pool := (s.pool.prestart count).pool })
      ((Pool.act_setup (.prestart count) rfl).start nofun))
  | refactored factory => exact ha
  | timePassed time => exact hs
  | declined _ => exact hs

theorem Reachable.step_sole {s' : System α} (hs : Reachable s)
    (hfactory : s.pool.factory.Contained) (hsole : Sole s r) (ha : a.Contained)
    (hstep : s.step a = some s') : s'.pool.factory.Contained ∧ Sole s' r := by
  obtain ⟨u, hmove, hcore⟩ := step_move hstep
  have hpool : s'.pool = u.pool := congrArg (fun w => w.pool) hcore
  constructor
  · rw [hpool]
    exact hmove.contained ha hfactory
  · exact of_core (P := fun s => Sole s r) (fun _ => rfl) hcore
      (hsole.move (hs.held r) (hmove.passes hs.numbered hs.attended r) fun hdoubles => by
        obtain ⟨failure, hunwound, -⟩ := hdoubles.faulted
        exact hfactory _ _ failure hunwound)

/-- What a run with factories that keep their panics to themselves preserves. -/
theorem exec_sole {actions : List (Action α)} (hs : Reachable s)
    (hfactory : s.pool.factory.Contained) (hsole : Sole s r)
    (hactions : ∀ a ∈ actions, a.Contained) (hrun : s.exec actions = some t) : Sole t r := by
  have hkept : Reachable t ∧ t.pool.factory.Contained ∧ Sole t r := by
    refine exec_keeps (P := fun s => Reachable s ∧ s.pool.factory.Contained ∧ Sole s r) ?_
      ⟨hs, hfactory, hsole⟩ hrun
    rintro s s' a ha ⟨hs, hfactory, hsole⟩ hstep
    exact ⟨hs.step a hstep, hs.step_sole hfactory hsole (hactions a ha) hstep⟩
  exact hkept.2.2

/-- Reached with factories that keep their panics to themselves, so no record is held twice. -/
structure Steady (s : System α) : Prop where
  reachable : Reachable s
  contained : s.pool.factory.Contained
  sole : ∀ r, Sole s r

theorem Steady.initial (host : Host) (name : String) (config : ServiceConfig)
    (clockEnd now : Instant) :
    Steady (System.initial host name config clockEnd now : System α) where
  reachable := .initial host name config clockEnd now
  contained := Pool.ofConfig_contained _ _
  sole _ := Nat.zero_le 1

theorem Steady.step (h : Steady s) (ha : a.Contained) (hstep : s.step a = some s') :
    Steady s' where
  reachable := h.reachable.step a hstep
  contained := (h.reachable.step_sole h.contained (h.sole 0) ha hstep).1
  sole r := (h.reachable.step_sole h.contained (h.sole r) ha hstep).2

theorem Steady.exec {actions : List (Action α)} (h : Steady s)
    (hactions : ∀ a ∈ actions, a.Contained) (hrun : s.exec actions = some t) : Steady t :=
  exec_keeps (fun ha h hstep => h.step (hactions _ ha) hstep) h hrun

theorem condemned_le_denied (s : System α) (r : Ref) : s.condemned r ≤ s.denied := by
  refine Nat.le_trans (List.countP_mono_left fun w _ => ?_) (Nat.le_add_left _ _)
  cases w.phase <;> first | exact fun _ => rfl | nofun

/-- As long as every factory starts its worker or fails inside the pool, every record is held in at
most one place: an entry of the delay queue, the hand of the pump, an entry of the run queue, or the
hand of a worker. One whose submission has got it in, and that is not terminal, is held in exactly
one, unless a pump has been refused in the run and a worker is about to reject the record for that.
So a periodic record never has two entries in the delay queue, nor two hand-offs under way. -/
theorem record_is_held_once (host : Host) (name : String) (config : ServiceConfig)
    (clockEnd now : Instant) {actions : List (Action α)} (hactions : ∀ a ∈ actions, a.Contained)
    (hrun : (System.initial host name config clockEnd now).exec actions = some s) (r : Ref) :
    s.places r ≤ 1 ∧
      (s.Admitted r → s.isFinal r = false →
        s.places r = 1 ∨ (0 < s.condemned r ∧ ∃ a ∈ actions, a.refusesPump = true)) ∧
      s.queue.holds r ≤ 1 ∧ s.pumpHolds r + s.pool.holds r ≤ 1 := by
  have hstart : Reachable (System.initial host name config clockEnd now : System α) :=
    .initial host name config clockEnd now
  have hsole : s.places r + s.arriving r ≤ 1 :=
    exec_sole hstart (Pool.ofConfig_contained _ _) (Nat.zero_le 1) hactions hrun
  have hplaces : s.places r = s.queue.holds r + s.pumpHolds r + s.pool.holds r := rfl
  refine ⟨by omega, fun hadmitted hfinal => ?_, by omega, by omega⟩
  rcases ((hstart.exec hrun).held r).kept hadmitted with hpos | hdoomed | hfinal'
  · omega
  · refine .inr ⟨hdoomed, exec_refused rfl hrun ?_⟩
    exact Nat.lt_of_lt_of_le hdoomed (condemned_le_denied s r)
  · rw [hfinal] at hfinal'
    cases hfinal'

/-- A submitted record is held once, by the run queue. -/
theorem submitted_record_is_held_once :
    ∃ s : System Unit, (System.initial .lenient "service" (.ofProcessors 1) 100 0).exec
        [.setFactory { start := fun _ _ => .started "worker" },
          .begin .submit, .call 0 0, .call 0 0, .call 0 0] = some s ∧
      s.accepted = [0] ∧ s.isFinal 0 = false ∧ s.pool.queue = [0] ∧ s.places 0 = 1 := by
  have honce := @record_is_held_once Unit _ .lenient "service" (.ofProcessors 1) 100 0
    [.setFactory { start := fun _ _ => .started "worker" },
      .begin .submit, .call 0 0, .call 0 0, .call 0 0]
    (by simp [Action.Contained, WorkerFactory.Contained]) rfl 0
  have hplaces := (honce.2.1 (.inl (List.mem_singleton_self 0)) rfl).resolve_right
    fun ⟨hdoomed, _⟩ => absurd hdoomed (Nat.lt_irrefl 0)
  exact ⟨_, rfl, rfl, rfl, rfl, hplaces⟩

end System

end TaskScheduler
