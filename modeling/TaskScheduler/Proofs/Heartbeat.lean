import TaskScheduler.Command.Heartbeat
import TaskScheduler.Proofs.Numeral

/-
  Which arguments of `serve` are read, and what is wrong with the others.

  `Given args ns`: the arguments are pairs of the option and a number of seconds.
  `Offends args i e`: the argument at a position is not what has to stand there. `FirstOffence` is
  the offence furthest to the left.

  `heartbeatFrom_of_given`, `exists_given`: pairs are read, and nothing else is.
  `exists_firstOffence`: what is refused is refused for its first offence. Pairs do not offend
  (`Given.not_offends`) and there is one first offence at most (`FirstOffence.unique`), so arguments
  with a first offence are refused for it (`heartbeatFrom_of_firstOffence`).
-/
namespace TaskScheduler.Command

open Text.Numeral

/-- The text is a number that fits into 64 bits. -/
def Seconds (text : String) (n : Nat) : Prop := Spells text.toList n ∧ n < wordBound

/-- The arguments are pairs of the option and a number, and these are the numbers in their order. -/
inductive Given : List String → List Nat → Prop where
  | nothing : Given [] []
  | pair {value : String} {n : Nat} {rest : List String} {ns : List Nat} :
      Seconds value n → Given rest ns → Given (heartbeatOption :: value :: rest) (n :: ns)

/-- The last of the numbers in seconds, though one second at least, and `unasked` if there are
none. -/
def lastGiven (unasked : Duration) (ns : List Nat) : Duration :=
  ns.getLast?.elim unasked fun n => .ofSeconds (max n 1)

/-- The argument at a position is not what has to stand there: the option at every even position,
and a number behind each option. -/
inductive Offends (args : List String) (i : Nat) : ArgumentError → Prop where
  | unknown {argument : String} : i % 2 = 0 → args[i]? = some argument →
      argument ≠ heartbeatOption → Offends args i (.unknown argument)
  | missingValue : i % 2 = 1 → args[i - 1]? = some heartbeatOption → args[i]? = none →
      Offends args i .missingValue
  | invalidValue {value : String} : i % 2 = 1 → args[i]? = some value →
      (∀ n, ¬Seconds value n) → Offends args i (.invalidValue value)

/-- The argument at a position is wrong, and none before it is. -/
structure FirstOffence (args : List String) (i : Nat) (e : ArgumentError) : Prop where
  offends : Offends args i e
  first : ∀ j < i, ∀ e', ¬Offends args j e'

variable {args args' rest : List String} {option value : String} {ns : List Nat} {n i i' : Nat}
  {e e' : ArgumentError} {current d : Duration}

theorem seconds_iff : parseBelow? wordBound value = some n ↔ Seconds value n :=
  parseBelow?_eq_some_iff

theorem not_seconds_iff : parseBelow? wordBound value = none ↔ ∀ n, ¬Seconds value n := by
  simp only [Option.eq_none_iff_forall_ne_some, ne_eq, seconds_iff]

/-! ## What an offence depends on -/

/-- An offence is seen from the parity of its position, the argument there and the one before. -/
theorem Offends.transfer (h : Offends args i e) (hparity : i' % 2 = i % 2)
    (hsame : args'[i']? = args[i]?) (hbefore : i % 2 = 1 → args'[i' - 1]? = args[i - 1]?) :
    Offends args' i' e := by
  cases h with
  | unknown heven hat hne => exact .unknown (hparity.trans heven) (hsame.trans hat) hne
  | missingValue hodd hoption hat =>
    exact .missingValue (hparity.trans hodd) ((hbefore hodd).trans hoption) (hsame.trans hat)
  | invalidValue hodd hat hunread =>
    exact .invalidValue (hparity.trans hodd) (hsame.trans hat) hunread

theorem Offends.congr (h : Offends args i e) (hsame : ∀ j ≤ i, args'[j]? = args[j]?) :
    Offends args' i e :=
  h.transfer rfl (hsame i (Nat.le_refl i)) fun _ => hsame (i - 1) (Nat.sub_le i 1)

/-- What follows the first offence does not count. -/
theorem FirstOffence.congr (h : FirstOffence args i e) (hsame : ∀ j ≤ i, args'[j]? = args[j]?) :
    FirstOffence args' i e := by
  refine ⟨h.offends.congr hsame, fun j hj e' hoff => h.first j hj e' (hoff.congr ?_)⟩
  intro k hk
  exact (hsame k (by omega)).symm

theorem Offends.unique (h : Offends args i e) (h' : Offends args i e') : e = e' := by
  cases h with
  | unknown heven hat _ =>
    cases h' with
    | unknown _ hat' _ => rw [Option.some.inj (hat.symm.trans hat')]
    | missingValue hodd _ _ => omega
    | invalidValue hodd _ _ => omega
  | missingValue hodd _ hat =>
    cases h' with
    | unknown heven _ _ => omega
    | missingValue _ _ _ => rfl
    | invalidValue _ hat' _ => cases hat.symm.trans hat'
  | invalidValue hodd hat _ =>
    cases h' with
    | unknown heven _ _ => omega
    | missingValue _ _ hat' => cases hat.symm.trans hat'
    | invalidValue _ hat' _ => rw [Option.some.inj (hat.symm.trans hat')]

theorem FirstOffence.unique (h : FirstOffence args i e) (h' : FirstOffence args i' e') :
    i = i' ∧ e = e' := by
  have hsame : i = i' := by
    rcases Nat.lt_trichotomy i i' with hlt | heq | hgt
    · exact absurd h.offends (h'.first i hlt e)
    · exact heq
    · exact absurd h'.offends (h.first i' hgt e')
  subst hsame
  exact ⟨rfl, h.offends.unique h'.offends⟩

/-! ## Offences from pair to pair -/

theorem offends_behind_pair :
    Offends (option :: value :: rest) (i + 2) e ↔ Offends rest i e := by
  have hbefore : i % 2 = 1 → (option :: value :: rest)[i + 2 - 1]? = rest[i - 1]? := by
    intro hodd
    obtain ⟨j, rfl⟩ : ∃ j, i = j + 1 := ⟨i - 1, by omega⟩
    simp
  constructor
  · intro h
    exact h.transfer (by omega) (by simp) fun hodd => (hbefore (by omega)).symm
  · intro h
    exact h.transfer (by omega) (by simp) hbefore

theorem not_offends_option : ¬Offends (heartbeatOption :: rest) 0 e := by
  intro h
  cases h with
  | unknown _ hat hne => exact hne (Option.some.inj hat).symm
  | missingValue hodd => omega
  | invalidValue hodd => omega

theorem not_offends_value (h : Seconds value n) : ¬Offends (option :: value :: rest) 1 e := by
  intro hoff
  cases hoff with
  | unknown heven => omega
  | missingValue _ _ hat => cases hat
  | invalidValue _ hat hunread =>
    cases hat
    exact hunread n h

theorem Given.not_offends (h : Given args ns) (i : Nat) (e : ArgumentError) :
    ¬Offends args i e := by
  induction h generalizing i with
  | nothing =>
    intro hoff
    cases hoff with
    | unknown _ hat => cases hat
    | missingValue _ hat => cases hat
    | invalidValue _ hat => cases hat
  | pair hvalue _ ih =>
    match i with
    | 0 => exact not_offends_option
    | 1 => exact not_offends_value hvalue
    | i + 2 =>
      rw [offends_behind_pair]
      exact ih i

theorem FirstOffence.of_option (h : option ≠ heartbeatOption) :
    FirstOffence (option :: rest) 0 (.unknown option) :=
  ⟨.unknown rfl rfl h, fun _ hj => absurd hj (Nat.not_lt_zero _)⟩

theorem FirstOffence.of_value (h : Offends (heartbeatOption :: rest) 1 e) :
    FirstOffence (heartbeatOption :: rest) 1 e := by
  refine ⟨h, fun j hj e' => ?_⟩
  obtain rfl : j = 0 := by omega
  exact not_offends_option

theorem FirstOffence.behind_pair (h : FirstOffence rest i e) (hvalue : Seconds value n) :
    FirstOffence (heartbeatOption :: value :: rest) (i + 2) e := by
  refine ⟨offends_behind_pair.mpr h.offends, fun j hj e' => ?_⟩
  match j with
  | 0 => exact not_offends_option
  | 1 => exact not_offends_value hvalue
  | j + 2 =>
    rw [offends_behind_pair]
    exact h.first j (by omega) e'

/-! ## Reading -/

theorem lastGiven_cons (unasked : Duration) (n : Nat) (ns : List Nat) :
    lastGiven unasked (n :: ns) = lastGiven (.ofSeconds (max n 1)) ns := by
  unfold lastGiven
  rw [List.getLast?_cons]
  cases ns.getLast? with
  | none => rw [Option.elim_some, Option.elim_none, Option.getD_none]
  | some last => rw [Option.elim_some, Option.elim_some, Option.getD_some]

theorem heartbeatFrom_pair (h : Seconds value n) (current : Duration) (rest : List String) :
    heartbeatFrom current (heartbeatOption :: value :: rest) =
      heartbeatFrom (.ofSeconds (max n 1)) rest := by
  rw [heartbeatFrom, if_pos rfl, seconds_iff.mpr h]

theorem heartbeatFrom_of_given (h : Given args ns) (current : Duration) :
    heartbeatFrom current args = .ok (lastGiven current ns) := by
  induction h generalizing current with
  | nothing => rfl
  | pair hvalue _ ih => rw [heartbeatFrom_pair hvalue, lastGiven_cons, ih]

theorem exists_given (h : heartbeatFrom current args = .ok d) : ∃ ns, Given args ns := by
  fun_induction heartbeatFrom current args with
  | case1 => exact ⟨[], .nothing⟩
  | case2 => cases h
  | case3 => cases h
  | case4 current value rest secs hread ih =>
    obtain ⟨ns, hgiven⟩ := ih h
    exact ⟨secs :: ns, .pair (seconds_iff.mp hread) hgiven⟩
  | case5 => cases h
  | case6 => cases h

theorem exists_firstOffence (h : heartbeatFrom current args = .error e) :
    ∃ i, FirstOffence args i e := by
  fun_induction heartbeatFrom current args with
  | case1 => cases h
  | case2 current =>
    cases h
    exact ⟨1, .of_value (.missingValue rfl rfl rfl)⟩
  | case3 current option hunknown =>
    cases h
    exact ⟨0, .of_option hunknown⟩
  | case4 current value rest secs hread ih =>
    obtain ⟨i, hfirst⟩ := ih h
    exact ⟨i + 2, hfirst.behind_pair (seconds_iff.mp hread)⟩
  | case5 current value rest hunread =>
    cases h
    exact ⟨1, .of_value (.invalidValue rfl rfl (not_seconds_iff.mp hunread))⟩
  | case6 current option value rest hunknown =>
    cases h
    exact ⟨0, .of_option hunknown⟩

theorem heartbeatFrom_of_firstOffence (h : FirstOffence args i e) (current : Duration) :
    heartbeatFrom current args = .error e := by
  cases hread : heartbeatFrom current args with
  | ok d =>
    obtain ⟨ns, hgiven⟩ := exists_given hread
    exact absurd h.offends (hgiven.not_offends i e)
  | error e' =>
    obtain ⟨i', hfirst⟩ := exists_firstOffence hread
    rw [(hfirst.unique h).2]

/-- The arguments are read if and only if they are pairs of the option and a number that fits into
64 bits. They give the last number in seconds, though one second at least, and 30 seconds if there
are none. They are refused if and only if an argument offends, and for the first that does, whatever
follows it. -/
theorem heartbeat_arguments_are_pairs (args : List String) :
    (∀ d, readHeartbeat args = .ok d ↔
        ∃ ns, Given args ns ∧ d = lastGiven (.ofSeconds 30) ns) ∧
      (∀ e, readHeartbeat args = .error e ↔ ∃ i, FirstOffence args i e) ∧
      (∀ i e, FirstOffence args i e → ∀ args', (∀ j ≤ i, args'[j]? = args[j]?) →
        readHeartbeat args' = .error e) := by
  refine ⟨fun d => ⟨fun h => ?_, ?_⟩, fun e => ⟨exists_firstOffence, ?_⟩, ?_⟩
  · obtain ⟨ns, hgiven⟩ := exists_given h
    refine ⟨ns, hgiven, ?_⟩
    rw [readHeartbeat, heartbeatFrom_of_given hgiven] at h
    exact (Except.ok.inj h).symm
  · rintro ⟨ns, hgiven, rfl⟩
    exact heartbeatFrom_of_given hgiven _
  · rintro ⟨i, hfirst⟩
    exact heartbeatFrom_of_firstOffence hfirst _
  · intro i e hfirst args' hsame
    exact heartbeatFrom_of_firstOffence (hfirst.congr hsame) _

/-- Seven seconds and then none are read as one second. With a blank in front of the second number
it is refused, with an unknown argument behind it as without. -/
theorem second_number_is_refused :
    let option := heartbeatOption
    Given [option, "+7", option, "0"] [7, 0] ∧
      readHeartbeat [option, "+7", option, "0"] = .ok (.ofSeconds 1) ∧
      FirstOffence [option, "+7", option, " 0"] 3 (.invalidValue " 0") ∧
      readHeartbeat [option, "+7", option, " 0"] = .error (.invalidValue " 0") ∧
      readHeartbeat ([option, "+7", option, " 0"] ++ ["--verbose"]) =
        .error (.invalidValue " 0") := by
  intro option
  have hseven : Seconds "+7" 7 := seconds_iff.mp (by decide)
  have hnone : Seconds "0" 0 := seconds_iff.mp (by decide)
  have hblank : ∀ n, ¬Seconds " 0" n := not_seconds_iff.mp (by decide)
  have hgiven : Given [option, "+7", option, "0"] [7, 0] := .pair hseven (.pair hnone .nothing)
  have hfirst : FirstOffence [option, "+7", option, " 0"] 3 (.invalidValue " 0") :=
    (FirstOffence.of_value (.invalidValue rfl rfl hblank)).behind_pair hseven
  obtain ⟨hread, -⟩ := heartbeat_arguments_are_pairs [option, "+7", option, "0"]
  obtain ⟨-, hrefused, hfollowed⟩ := heartbeat_arguments_are_pairs [option, "+7", option, " 0"]
  refine ⟨hgiven, (hread _).mpr ⟨_, hgiven, rfl⟩, hfirst, (hrefused _).mpr ⟨3, hfirst⟩,
    hfollowed 3 _ hfirst _ fun j hj => ?_⟩
  exact List.getElem?_append_left (Nat.lt_succ_of_le hj)

end TaskScheduler.Command
