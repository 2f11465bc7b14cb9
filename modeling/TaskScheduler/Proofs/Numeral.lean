import Mathlib.Data.Nat.Digits.Defs
import Mathlib.Tactic.Ring
import TaskScheduler.Text.Numeral

/-
  Which texts are read as a number, and as which.

  `Spells text n`: the text is a row of decimal digits with an optional plus sign in front, and `n`
  is the number that the digits stand for by their places. `parse?_eq_some_iff`: these texts are
  read, as these numbers, and no others. `parseBelow?_eq_some_iff`: the same below a bound.
-/
namespace TaskScheduler.Text.Numeral

/-- The number that a row of decimal digits stands for: the last one counts ones, the one before it
tens, and so on. -/
def placeValue (digits : List Char) : Nat := Nat.ofDigits 10 (digits.reverse.map digitValue)

/-- The text is one decimal digit or more, with an optional plus sign in front and nothing else, and
the digits stand for `n`. -/
def Spells (text : List Char) (n : Nat) : Prop :=
  ∃ digits : List Char, (text = digits ∨ text = '+' :: digits) ∧ digits ≠ [] ∧
    (∀ c ∈ digits, c.isDigit = true) ∧ placeValue digits = n

@[simp] theorem placeValue_nil : placeValue [] = 0 := rfl

@[simp] theorem placeValue_cons (c : Char) (digits : List Char) :
    placeValue (c :: digits) = digitValue c * 10 ^ digits.length + placeValue digits := by
  unfold placeValue
  rw [List.reverse_cons, List.map_append, Nat.ofDigits_append, List.length_map,
    List.length_reverse, List.map_singleton, Nat.ofDigits_singleton]
  ring

/-- Digits behind a number move it up by their places. -/
theorem ofDigits?_eq_some_iff {cs : List Char} {acc n : Nat} :
    ofDigits? acc cs = some n ↔
      (∀ c ∈ cs, c.isDigit = true) ∧ acc * 10 ^ cs.length + placeValue cs = n := by
  induction cs generalizing acc with
  | nil => simp [ofDigits?]
  | cons c cs ih =>
    unfold ofDigits?
    split
    next hdigit =>
      have hmoved : (acc * 10 + digitValue c) * 10 ^ cs.length + placeValue cs =
          acc * 10 ^ (c :: cs).length + placeValue (c :: cs) := by
        rw [placeValue_cons, List.length_cons]
        ring
      rw [ih, hmoved]
      simp [hdigit]
    next hother => simp [hother]

theorem parse?_eq_some_iff {text : List Char} {n : Nat} :
    parse? text = some n ↔ Spells text n := by
  unfold parse?
  split
  next =>
    constructor
    · intro hread
      cases hread
    · rintro ⟨digits, hempty | hempty, hsome, -⟩
      · exact absurd hempty.symm hsome
      · cases hempty
  next c cs =>
    rw [ofDigits?_eq_some_iff]
    constructor
    · rintro ⟨hdigits, hvalue⟩
      exact ⟨c :: cs, .inr rfl, List.cons_ne_nil c cs, hdigits, by simpa using hvalue⟩
    · rintro ⟨digits, rfl | hsigned, -, hdigits, hvalue⟩
      · exact absurd (hdigits '+' List.mem_cons_self) (by decide)
      · cases hsigned
        exact ⟨hdigits, by simpa using hvalue⟩
  next hempty hunsigned =>
    rw [ofDigits?_eq_some_iff]
    constructor
    · rintro ⟨hdigits, hvalue⟩
      exact ⟨text, .inl rfl, hempty, hdigits, by simpa using hvalue⟩
    · rintro ⟨digits, rfl | rfl, hsome, hdigits, hvalue⟩
      · exact ⟨hdigits, by simpa using hvalue⟩
      · obtain ⟨c, cs, rfl⟩ := List.exists_cons_of_ne_nil hsome
        exact absurd rfl (hunsigned c cs)

theorem parseBelow?_eq_some_iff {bound n : Nat} {text : String} :
    parseBelow? bound text = some n ↔ Spells text.toList n ∧ n < bound := by
  rw [parseBelow?, Option.filter_eq_some_iff, parse?_eq_some_iff, decide_eq_true_iff]

end TaskScheduler.Text.Numeral
