import TaskScheduler.Proofs.Crowd
import TaskScheduler.Proofs.Trace

/-
  A record has one outcome, whatever threads do to it and in whatever order.

  `OneRun`: at most one run of a record is in progress. `Chronicle`: the outcomes that a record was
  given so far, and the answers to those who came for it once it was terminal. Both are kept by
  every deed (`OneRun.step`, `Chronicle.step`), so they hold after every run of the crowd
  (`told_of_run`). `Lawful`: what a single deed may do. `Serves`: what becomes of those who come for
  the outcome. `record_has_one_outcome` puts this together.
-/
namespace TaskScheduler.Crowd

variable {α : Type} {c c' : Crowd α} {a : Deed α} {r : Ref} {x y : Record α} {i : Nat}

/-! ## Runs in progress -/

theorem count_erase_add {l : List Ref} {r' : Ref} (h : l.contains r' = true) (r : Ref) :
    (l.erase r').count r + (r' == r).toNat = l.count r := by
  have hpos : 0 < l.count r' := List.count_pos_iff.mpr (List.contains_iff_mem.mp h)
  by_cases hr : r' = r
  · subst hr
    rw [List.count_erase_self, beq_self_eq_true, Bool.toNat_true]
    omega
  · rw [List.count_erase_of_ne (Ne.symm hr), beq_false_of_ne hr]
    rfl

/-- What a deed does to the number of runs of a record in progress. -/
inductive Progress (c : Crowd α) (a : Deed α) (c' : Crowd α) (r : Ref) : Prop where
  | kept : c'.runs r = c.runs r → (∀ result, a ≠ .endBody r result) → Progress c a c' r
  /-- A run of a record that waits begins. -/
  | begins : c.service.isPending r = true → c'.service.isPending r = false →
      c'.runs r = c.runs r + 1 → Progress c a c' r
  | ends : c'.runs r + 1 = c.runs r → Progress c a c' r

/-- A run of one record ends. -/
theorem Progress.of_ended (r' : Ref) (h : c'.runs r + (r' == r).toNat = c.runs r)
    (ha : ∀ result, a = .endBody r result → r' = r) : Progress c a c' r := by
  by_cases hr : r' = r
  · rw [hr, beq_self_eq_true, Bool.toNat_true] at h
    exact .ends h
  · rw [beq_false_of_ne hr] at h
    exact .kept h fun result heq => hr (ha result heq)

theorem begin_progress {r' : Ref} (h : c.act (.begin r') = some c') (r : Ref) :
    Progress c (.begin r') c' r := by
  simp only [act] at h
  rcases c.service.beginRun_cases r' with ⟨hsame, -⟩ | ⟨record, hrecord, hstate, hbegun, hcore⟩
  · rw [hsame] at h
    cases h
    exact .kept rfl (by rintro _ ⟨⟩)
  · have hrecords : (c.service.beginRun r').1.records = c.service.records.modify r' _ :=
      congrArg (fun s => s.records) hcore
    generalize c.service.beginRun r' = begun at h hbegun hrecords
    obtain ⟨s, started⟩ := begun
    obtain rfl : started = true := hbegun
    cases h
    have hcount := count_cons_add c.begun r' r
    by_cases hr : r' = r
    · subst hr
      rw [beq_self_eq_true, Bool.toNat_true] at hcount
      refine .begins (System.isPending_iff.mpr ⟨record, hrecord, hstate⟩) ?_ ?_
      · exact System.isPending_of_modify hrecords (by rintro _ ⟨⟩)
      · simp only [runs, hcount]
        omega
    · rw [beq_false_of_ne hr, Bool.toNat_false] at hcount
      exact .kept (by simp only [runs, hcount]; omega) (by rintro _ ⟨⟩)

theorem callBody_progress {r' : Ref} (h : c.act (.callBody r') = some c') (r : Ref) :
    Progress c (.callBody r') c' r := by
  simp only [act] at h
  split at h
  next hbegun =>
    have herased := count_erase_add hbegun r
    split at h
    · -- The run goes on from before the body to inside it.
      cases h
      have hadded := count_cons_add c.inside r' r
      refine .kept ?_ (by rintro _ ⟨⟩)
      simp only [runs]
      omega
    · cases h
      refine .of_ended r' ?_ (by rintro _ ⟨⟩)
      simp only [runs]
      omega
  next => cases h

theorem endBody_progress {r' : Ref} {result : Except Failure α}
    (h : c.act (.endBody r' result) = some c') (r : Ref) :
    Progress c (.endBody r' result) c' r := by
  simp only [act] at h
  split at h
  next hinside =>
    cases h
    have herased := count_erase_add hinside r
    refine .of_ended r' ?_ fun result' heq => (Deed.endBody.inj heq).1
    simp only [runs]
    omega
  next => cases h

theorem act_progress (h : c.act a = some c') (r : Ref) : Progress c a c' r := by
  cases a with
  | begin r' => exact begin_progress h r
  | callBody r' => exact callBody_progress h r
  | endBody r' result => exact endBody_progress h r
  | retrieve i =>
    obtain ⟨stage, -, h⟩ := Option.bind_eq_some_iff.mp h
    obtain ⟨⟨s, stage'⟩, -, rfl⟩ := Option.map_eq_some_iff.mp h
    exact .kept rfl nofun
  | _ =>
    cases h
    exact .kept rfl nofun

/-- At most one run of the record is in progress, and none while it waits. -/
structure OneRun (c : Crowd α) (r : Ref) : Prop where
  one : c.runs r ≤ 1
  waiting : c.service.isPending r = true → c.runs r = 0
  unmade : c.service.record? r = none → c.runs r = 0

theorem OneRun.step (h : OneRun c r) (hstep : c.act a = some c') : OneRun c' r := by
  have hunmade : c'.service.record? r = none → c.service.record? r = none := by
    intro hnone
    cases hx : c.service.record? r with
    | none => rfl
    | some x =>
      obtain ⟨y, hy, -⟩ := act_record hstep hx
      rw [hnone] at hy
      cases hy
  have hone := h.one
  cases act_progress hstep r with
  | kept hsame hnot =>
    refine ⟨by omega, fun hwaits => ?_, fun hnone => hsame.trans (h.unmade (hunmade hnone))⟩
    rw [hsame]
    cases hx : c.service.record? r with
    | none => exact h.unmade hx
    | some x =>
      obtain ⟨y, hy, hdoes⟩ := act_record hstep hx
      obtain ⟨y', hy', hstate⟩ := System.isPending_iff.mp hwaits
      obtain rfl : y = y' := Option.some.inj (hy.symm.trans hy')
      rcases hdoes.waits hstate with hbefore | ⟨result, rfl⟩
      · exact h.waiting (System.isPending_iff.mpr ⟨x, hx, hbefore⟩)
      · exact absurd rfl (hnot result)
  | begins hpending hbegun hruns =>
    have hzero := h.waiting hpending
    refine ⟨by omega, fun hwaits => ?_, fun hnone => ?_⟩
    · rw [hbegun] at hwaits
      cases hwaits
    · have hzero' := h.unmade (hunmade hnone)
      obtain ⟨x, hx, -⟩ := System.isPending_iff.mp hpending
      rw [hunmade hnone] at hx
      cases hx
  | ends hruns => exact ⟨by omega, fun _ => by omega, fun _ => by omega⟩

/-! ## Outcomes -/

/-- The outcomes that a record has been given, and the answers to those who came for the outcome
when the record was terminal. -/
inductive Chronicle : Record α → List (Except TaskError α) → List (Except TaskError α) → Prop where
  | waiting {x : Record α} : x.isFinal = false → x.outcome = none → Chronicle x [] []
  | ended {x : Record α} {o : Except TaskError α} : x.Befits o → x.outcome = some o →
      Chronicle x [o] []
  /-- The first to come has got the outcome, and the others are told that it is gone. -/
  | taken {x : Record α} {o : Except TaskError α} (others : Nat) : x.Befits o → x.outcome = none →
      Chronicle x [o] (o :: List.replicate others (.error .outcomeTaken))

/-- The outcome that the record has now and did not have before. -/
def written (r : Ref) (c : Crowd α) (_ : Deed α) (c' : Crowd α) : List (Except TaskError α) :=
  match (c.service.record? r).bind (·.outcome), (c'.service.record? r).bind (·.outcome) with
  | none, some o => [o]
  | _, _ => []

/-- The answer that the `index`-th of those who have come for an outcome has got. -/
def answer? (c : Crowd α) (index : Nat) : Option (Except TaskError α) :=
  match c.retrievals[index]? with
  | some (.answered _ o) => some o
  | _ => none

/-- The answer to one who takes the outcome of the record when it is terminal. -/
def answers (r : Ref) (c : Crowd α) (a : Deed α) (c' : Crowd α) : List (Except TaskError α) :=
  match a with
  | .retrieve i =>
    if c.takes r (.retrieve i) && c.service.isFinal r then (c'.answer? i).toList else []
  | _ => []

/-- Whoever takes the outcome gets it, or is told that it is gone. -/
theorem act_take (h : c.retrievals[i]? = some (.taking r)) :
    ∃ c', c.act (.retrieve i) = some c' ∧
      c'.retrievals[i]? = some (.answered r
        (((c.service.record? r).bind (·.outcome)).getD (.error .outcomeTaken))) := by
  refine ⟨_, by rw [act, h]; rfl, ?_⟩
  exact List.getElem?_set_self (List.getElem?_eq_some_iff.mp h).1

theorem answers_of_takes (h : c.act a = some c') (hx : c.service.record? r = some x)
    (htakes : c.takes r a = true) :
    answers r c a c' =
      if x.isFinal then [x.outcome.getD (.error .outcomeTaken)] else [] := by
  cases a with
  | retrieve i =>
    have hstage : c.retrievals[i]? = some (.taking r) := by
      rw [takes] at htakes
      split at htakes
      next r' heq => rw [heq, eq_of_beq htakes]
      next => cases htakes
    obtain ⟨u, hu, hanswer⟩ := act_take hstage
    obtain rfl : u = c' := Option.some.inj (hu.symm.trans h)
    have hfinal : c.service.isFinal r = x.isFinal := by
      rw [System.isFinal, System.state?, hx]
      rfl
    rw [hx, Option.bind_some] at hanswer
    simp only [answers, htakes, hfinal, Bool.true_and, answer?, hanswer]
    rfl
  | _ => cases htakes

theorem answers_of_not_takes (htakes : c.takes r a = false) : answers r c a c' = [] := by
  cases a with
  | retrieve i =>
    rw [answers, htakes]
    rfl
  | _ => rfl

theorem Chronicle.step {given told : List (Except TaskError α)} (h : Chronicle x given told)
    (hstep : c.act a = some c') (hx : c.service.record? r = some x)
    (hy : c'.service.record? r = some y) (hdoes : Does c r x a y) :
    Chronicle y (given ++ written r c a c') (told ++ answers r c a c') := by
  have hwritten : written r c a c' =
      match x.outcome, y.outcome with
      | none, some o => [o]
      | _, _ => [] := by
    rw [written, hx, hy]
    rfl
  have hkeeps := hdoes.keeps
  cases htakes : c.takes r a with
  | true =>
    obtain rfl := hdoes.of_takes htakes
    rw [answers_of_takes hstep hx htakes, hwritten]
    cases h with
    | waiting hopen hnone =>
      rw [hopen, hnone]
      exact .waiting hopen rfl
    | ended hfits houtcome =>
      rw [hfits.isFinal, houtcome]
      exact .taken 0 (hfits.congr rfl rfl) rfl
    | taken others hfits hnone =>
      rw [hfits.isFinal, hnone, if_pos rfl, List.cons_append]
      have hmore := Chronicle.taken (x := x.collectOutcome.1) (others + 1) (hfits.congr rfl rfl) rfl
      rw [List.replicate_succ'] at hmore
      exact hmore
  | false =>
    rw [answers_of_not_takes htakes, List.append_nil, hwritten]
    have hpasses := hdoes.passes htakes
    cases h with
    | waiting hopen hnone =>
      cases hpasses with
      | stays hstate houtcome =>
        rw [houtcome, hnone]
        exact .waiting (by rw [Record.isFinal, hstate]; exact hopen) (houtcome.trans hnone)
      | goesOn _ hopen' houtcome =>
        rw [houtcome, hnone]
        exact .waiting hopen' (houtcome.trans hnone)
      | ends _ _ houtcome hfits =>
        rw [hnone, houtcome]
        exact .ended hfits houtcome
    | ended hfits houtcome =>
      obtain ⟨hstate, hsame⟩ := hpasses.final hfits.isFinal
      rw [hsame, houtcome]
      exact .ended (hfits.congr hstate hkeeps.recurrence) (hsame.trans houtcome)
    | taken others hfits hnone =>
      obtain ⟨hstate, hsame⟩ := hpasses.final hfits.isFinal
      rw [hsame, hnone]
      exact .taken others (hfits.congr hstate hkeeps.recurrence) (hsame.trans hnone)

/-- Of a record that is not there, or has just been made, there is nothing to tell. -/
theorem nothing_told (h : c.act a = some c') (hnew : c.service.record? r = none) :
    written r c a c' = [] ∧ answers r c a c' = [] := by
  constructor
  · rw [written, hnew]
    cases hy : c'.service.record? r with
    | none => rfl
    | some y =>
      rw [Option.bind_some, (act_made h hnew hy).2]
      rfl
  · have hfinal : c.service.isFinal r = false := by
      rw [System.isFinal, System.state?, hnew]
      rfl
    cases a with
    | retrieve i =>
      rw [answers, hfinal, Bool.and_false]
      rfl
    | _ => rfl

/-- What a run of the crowd brings about for a record: there is none, or it has a chronicle; and at
most one run of it is in progress. -/
structure Told (c : Crowd α) (r : Ref) (given told : List (Except TaskError α)) : Prop where
  runs : OneRun c r
  unmade : c.service.record? r = none → given = [] ∧ told = []
  made : ∀ x, c.service.record? r = some x → Chronicle x given told

theorem Told.step {given told : List (Except TaskError α)} (h : Told c r given told)
    (hstep : c.act a = some c') :
    Told c' r (given ++ written r c a c') (told ++ answers r c a c') := by
  refine ⟨h.runs.step hstep, fun hnone => ?_, fun y hy => ?_⟩
  · cases hx : c.service.record? r with
    | some x =>
      obtain ⟨y, hy, -⟩ := act_record hstep hx
      rw [hnone] at hy
      cases hy
    | none =>
      obtain ⟨hwritten, hanswers⟩ := nothing_told hstep hx
      obtain ⟨rfl, rfl⟩ := h.unmade hx
      exact ⟨hwritten, hanswers⟩
  · cases hx : c.service.record? r with
    | some x =>
      obtain ⟨y', hy', hdoes⟩ := act_record hstep hx
      obtain rfl : y = y' := Option.some.inj (hy.symm.trans hy')
      exact (h.made x hx).step hstep hx hy hdoes
    | none =>
      obtain ⟨hwritten, hanswers⟩ := nothing_told hstep hx
      obtain ⟨rfl, rfl⟩ := h.unmade hx
      obtain ⟨hstate, hnone⟩ := act_made hstep hx hy
      rw [hwritten, hanswers]
      refine .waiting ?_ hnone
      rw [Record.isFinal, hstate]
      rfl

theorem told_of_run {name : String} {config : ServiceConfig} {clockEnd now : Instant}
    {deeds : List (Deed α)}
    (hrun : deeds.foldlM act (initial host name config clockEnd now) = some c) (r : Ref) :
    Told c r (notes act (written r) (initial host name config clockEnd now) deeds)
      (notes act (answers r) (initial host name config clockEnd now) deeds) := by
  refine run_induction (P := fun deeds c => Told c r
      (notes act (written r) (initial host name config clockEnd now) deeds)
      (notes act (answers r) (initial host name config clockEnd now) deeds)) ?_ ?_ hrun
  · refine ⟨⟨Nat.zero_le 1, fun _ => rfl, fun _ => rfl⟩, fun _ => ⟨rfl, rfl⟩, ?_⟩
    intro x hx
    cases hx
  · intro before c a c' hbefore htold hstep
    rw [notes_concat hbefore hstep, notes_concat hbefore hstep]
    exact htold.step hstep

/-! ## Laws -/

/-- What a deed may do to a record: a terminal state is never left; a record that ends has the
outcome of the deed; no other deed changes the outcome, but for one that takes it; and the trigger
is moved by a postponement while the record waits, or when a run of a periodic record comes
round. -/
structure Lawful (c : Crowd α) (r : Ref) (a : Deed α) (x y : Record α) : Prop where
  final : x.isFinal = true → y.state = x.state
  ends : x.isFinal = false → y.isFinal = true → y.outcome.isSome = true ∧ y.outcome = a.verdict
  outcome : y.outcome = x.outcome ∨ (x.isFinal = false ∧ y.isFinal = true) ∨
    (c.takes r a = true ∧ y.outcome = none)
  trigger : y.trigger = x.trigger ∨
    (∃ trigger, a = .postpone r trigger ∧ x.state = .pending ∧ y.trigger = trigger) ∨
    (∃ value, a = .endBody r (.ok value) ∧ x.state = .running ∧ x.repeats = true ∧
      y.trigger = x.recurrence.nextRun c.service.clockEnd x.trigger c.service.now)

theorem Does.lawful (h : Does c r x a y) : Lawful c r a x y := by
  have hkeeps := h.keeps
  cases htakes : c.takes r a with
  | true =>
    obtain rfl := h.of_takes htakes
    refine ⟨hkeeps.final, fun hopen hfinal => ?_, .inr (.inr ⟨htakes, rfl⟩), h.trigger⟩
    have hsame : x.collectOutcome.1.isFinal = x.isFinal := rfl
    rw [hsame, hopen] at hfinal
    cases hfinal
  | false =>
    have hpasses := h.passes htakes
    refine ⟨hkeeps.final, fun hopen hfinal => ?_, ?_, h.trigger⟩
    · cases hpasses with
      | stays hstate _ =>
        rw [Record.isFinal, hstate] at hfinal
        rw [Record.isFinal, hfinal] at hopen
        cases hopen
      | goesOn _ hopen' _ =>
        rw [hfinal] at hopen'
        cases hopen'
      | ends _ hverdict houtcome _ => exact ⟨houtcome ▸ rfl, houtcome.trans hverdict.symm⟩
    · cases hpasses with
      | stays _ houtcome => exact .inl houtcome
      | goesOn _ _ houtcome => exact .inl houtcome
      | ends hopen _ _ hfits => exact .inr (.inl ⟨hopen, hfits.isFinal⟩)

/-- How those fare who come for the outcome of a record: one who waits goes on to take it when the
record is terminal, and otherwise can only be told that the timeout is over, which leaves the record
as it is; one who takes it gets it if it is there. -/
structure Serves (c : Crowd α) (r : Ref) (x : Record α) : Prop where
  wait : ∀ i limit, c.retrievals[i]? = some (.waiting r limit) → x.isFinal = true →
    ∃ c', c.act (.retrieve i) = some c' ∧ c'.service = c.service ∧
      c'.retrievals[i]? = some (.taking r)
  timeout : ∀ i limit c', c.retrievals[i]? = some (.waiting r limit) → x.isFinal = false →
    c.act (.retrieve i) = some c' → c'.service = c.service ∧
      ∃ last time, limit = some (last, time) ∧ last ≤ c.service.now ∧
        c'.retrievals[i]? = some (.answered r (.error (.timeout time)))
  take : ∀ i, c.retrievals[i]? = some (.taking r) →
    ∃ c', c.act (.retrieve i) = some c' ∧
      c'.retrievals[i]? = some (.answered r (x.outcome.getD (.error .outcomeTaken)))

theorem serves (hx : c.service.record? r = some x) : Serves c r x := by
  have hfinal : c.service.isFinal r = x.isFinal := by
    rw [System.isFinal, System.state?, hx]
    rfl
  refine ⟨fun i limit hstage hterminal => ?_, fun i limit c' hstage hopen hstep => ?_,
    fun i hstage => ?_⟩
  · refine ⟨{ c with retrievals := c.retrievals.set i (.taking r) }, ?_, rfl, ?_⟩
    · simp only [act, hstage, Option.bind_some, System.retrievalStep, hfinal, hterminal, if_true]
      rfl
    · exact List.getElem?_set_self (List.getElem?_eq_some_iff.mp hstage).1
  · simp only [act, hstage, Option.bind_some, System.retrievalStep, hfinal, hopen,
      Bool.false_eq_true, if_false] at hstep
    cases limit with
    | none => cases hstep
    | some limit =>
      obtain ⟨last, time⟩ := limit
      simp only at hstep
      split at hstep
      next hover =>
        cases hstep
        refine ⟨rfl, last, time, rfl, hover, ?_⟩
        exact List.getElem?_set_self (List.getElem?_eq_some_iff.mp hstage).1
      next => cases hstep
  · obtain ⟨c', hstep, hanswer⟩ := act_take hstage
    rw [hx] at hanswer
    exact ⟨c', hstep, hanswer⟩

/-- Whatever threads do to a record and in whatever order, it has at most one outcome. A record that
is not terminal has none; one that is terminal was given exactly one, which fits its state. Of those
who take the outcome when the record is terminal the first gets it, and the others are told that it
is gone. At most one run of the record is in progress. Every deed keeps to the laws, and nobody who
comes for the outcome is left without an answer once the record is terminal. -/
theorem record_has_one_outcome (host : Host) (name : String) (config : ServiceConfig)
    (clockEnd now : Instant)
    {deeds : List (Deed α)}
    (hrun : deeds.foldlM act (initial host name config clockEnd now) = some c)
    (hx : c.service.record? r = some x) :
    Chronicle x (notes act (written r) (initial host name config clockEnd now) deeds)
        (notes act (answers r) (initial host name config clockEnd now) deeds) ∧
      c.runs r ≤ 1 ∧
      (∀ a c', c.act a = some c' →
        ∃ y, c'.service.record? r = some y ∧ Lawful c r a x y) ∧
      Serves c r x := by
  have htold := told_of_run hrun r
  refine ⟨htold.made x hx, htold.runs.one, fun a c' hstep => ?_, serves hx⟩
  obtain ⟨y, hy, hdoes⟩ := act_record hstep hx
  exact ⟨y, hy, hdoes.lawful⟩

/-- A record is run once. One who waits for its outcome runs out of time, and is told so after the
body has been called and has tried to cancel its own record; then the body returns, and two come for
the outcome. -/
def fetchedTwice : List (Deed Unit) :=
  [.make .once 0, .fetch 0 (some (0, .zero)), .begin 0, .callBody 0, .cancel 0 false, .begin 0,
    .retrieve 0, .endBody 0 (.ok ()), .fetch 0 none, .take 0, .retrieve 1, .retrieve 2, .retrieve 1]

theorem outcome_is_fetched_once :
    ∃ (c : Crowd Unit) (x : Record Unit),
      fetchedTwice.foldlM act (initial .lenient "service" (.ofProcessors 1) 100 0) = some c ∧
      c.service.record? 0 = some x ∧ x.state = .done ∧
      (c.answer? 0 matches some (.error (.timeout _))) = true ∧
      (c.answer? 2 matches some (.ok ())) = true ∧
      (c.answer? 1 matches some (.error .outcomeTaken)) = true ∧
      Chronicle x
        (notes act (written 0) (initial .lenient "service" (.ofProcessors 1) 100 0) fetchedTwice)
        (notes act (answers 0) (initial .lenient "service" (.ofProcessors 1) 100 0) fetchedTwice) ∧
      c.runs 0 ≤ 1 := by
  have hruns : (fetchedTwice.foldlM act
      (initial .lenient "service" (.ofProcessors 1) 100 0)).any (fun c => decide (c.service.state? 0 = some .done ∧
        (c.answer? 0 matches some (.error (.timeout _))) = true ∧
        (c.answer? 2 matches some (.ok ())) = true ∧
        (c.answer? 1 matches some (.error .outcomeTaken)) = true)) = true := by
    decide +kernel
  simp only [Option.any_eq_true, decide_eq_true_eq] at hruns
  obtain ⟨c, hrun, hdone, htimeout, hgot, hgone⟩ := hruns
  obtain ⟨x, hx, hstate⟩ := System.state?_eq_some.mp hdone
  obtain ⟨hchronicle, hone, -, -⟩ :=
    record_has_one_outcome .lenient "service" (.ofProcessors 1) 100 0 hrun hx
  exact ⟨c, x, hrun, hx, hstate, htimeout, hgot, hgone, hchronicle, hone⟩

end TaskScheduler.Crowd
