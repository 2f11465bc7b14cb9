/-
  Decimal numerals: how a natural number is written, and which texts are read as one.

  `ofDigits?_digits`, `parseBelow?_ofNat`: reading the digits of a number gives the number back.
-/
namespace TaskScheduler

/-- The number of values of a 64-bit word, `2^64`. -/
def wordBound : Nat := 18446744073709551616

namespace Text.Numeral

/-- The ASCII digit for a number below ten. -/
def digit (n : Nat) : Char := Char.ofNat ('0'.toNat + n % 10)

/-- The number an ASCII digit stands for. -/
def digitValue (c : Char) : Nat := c.toNat - '0'.toNat

/-- The number a hexadecimal digit stands for. -/
def hexValue? (c : Char) : Option Nat :=
  if c.isDigit then some (digitValue c)
  else if 'a' ≤ c && c ≤ 'f' then some (c.toNat - 'a'.toNat + 10)
  else if 'A' ≤ c && c ≤ 'F' then some (c.toNat - 'A'.toNat + 10)
  else none

/-- The decimal digits of a number, most significant first, without leading zeros. -/
def digits (n : Nat) : List Char :=
  if n < 10 then [digit n] else digits (n / 10) ++ [digit n]
termination_by n
decreasing_by omega

/-- The value of `acc` followed by ASCII digits, or `none` if another character stands there. -/
def ofDigits? (acc : Nat) : List Char → Option Nat
  | [] => some acc
  | c :: cs => if c.isDigit then ofDigits? (acc * 10 + digitValue c) cs else none

/-- Reads one or more ASCII digits with an optional plus sign in front. -/
def parse? : List Char → Option Nat
  | [] => none
  | '+' :: c :: cs => ofDigits? 0 (c :: cs)
  | cs => ofDigits? 0 cs

/-- Reads a numeral whose value is below `bound`. -/
def parseBelow? (bound : Nat) (s : String) : Option Nat :=
  (parse? s.toList).filter (· < bound)

/-- Digits behind the letter `e` and an optional sign, or nothing. -/
def isExponent : List Char → Bool
  | [] => true
  | c :: cs =>
    let digits :=
      match cs with
      | '+' :: ds | '-' :: ds => ds
      | ds => ds
    (c == 'e' || c == 'E') && !digits.isEmpty && digits.all Char.isDigit

/-- A number without a sign: digits with at most one point among them and an optional exponent. -/
def isFraction (cs : List Char) : Bool :=
  let (whole, rest) := cs.span Char.isDigit
  let (places, rest) :=
    match rest with
    | '.' :: rest => rest.span Char.isDigit
    | rest => ([], rest)
  !(whole ++ places).isEmpty && isExponent rest

/-- The decimal text of a natural number. -/
def ofNat (n : Nat) : String := String.ofList (digits n)

/-- The decimal text of an integer, with a minus sign in front of a negative one. -/
def ofInt (i : Int) : String :=
  if i < 0 then String.ofList ('-' :: digits i.natAbs) else ofNat i.natAbs

theorem digit_isDigit (n : Nat) : (digit n).isDigit = true := by
  have h : ∀ k, k < 10 → (Char.ofNat ('0'.toNat + k)).isDigit = true := by decide
  exact h (n % 10) (Nat.mod_lt _ (by decide))

theorem digitValue_digit (n : Nat) : digitValue (digit n) = n % 10 := by
  have h : ∀ k, k < 10 → digitValue (Char.ofNat ('0'.toNat + k)) = k := by decide
  exact h (n % 10) (Nat.mod_lt _ (by decide))

theorem ofDigits?_append_digit (acc : Nat) (cs : List Char) (n : Nat) :
    ofDigits? acc (cs ++ [digit n]) = (ofDigits? acc cs).map (· * 10 + n % 10) := by
  induction cs generalizing acc with
  | nil => simp [ofDigits?, digit_isDigit, digitValue_digit]
  | cons c cs ih =>
    simp only [List.cons_append, ofDigits?]
    split
    · exact ih _
    · rfl

theorem ofDigits?_digits (n : Nat) : ofDigits? 0 (digits n) = some n := by
  fun_induction digits n with
  | case1 n h => simp [ofDigits?, digit_isDigit, digitValue_digit, Nat.mod_eq_of_lt h]
  | case2 n h ih =>
    rw [ofDigits?_append_digit, ih]
    simp only [Option.map_some, Option.some.injEq]
    omega

theorem isDigit_of_mem_digits {n : Nat} {c : Char} (h : c ∈ digits n) : c.isDigit = true := by
  fun_induction digits n with
  | case1 n _ => exact List.mem_singleton.mp h ▸ digit_isDigit n
  | case2 n _ ih =>
    rcases List.mem_append.mp h with hfront | hlast
    · exact ih hfront
    · exact List.mem_singleton.mp hlast ▸ digit_isDigit n

theorem digits_ne_nil (n : Nat) : digits n ≠ [] := by
  unfold digits
  split
  · exact List.cons_ne_nil _ _
  · exact List.append_ne_nil_of_right_ne_nil _ (List.cons_ne_nil _ _)

/-- The digits of a number are read as they are, for no sign stands in front of them. -/
theorem parse?_digits (n : Nat) : parse? (digits n) = some n := by
  have hread := ofDigits?_digits n
  have hdigit : ∀ c ∈ digits n, c.isDigit = true := fun _ => isDigit_of_mem_digits
  unfold parse?
  split
  next hnone => exact absurd hnone (digits_ne_nil n)
  next hsign => cases hdigit '+' (hsign ▸ List.mem_cons_self)
  next => exact hread

theorem parseBelow?_ofNat {bound n : Nat} (h : n < bound) :
    parseBelow? bound (ofNat n) = some n := by
  rw [parseBelow?, ofNat, String.toList_ofList, parse?_digits, Option.filter_some,
    if_pos (decide_eq_true h)]

end Text.Numeral

end TaskScheduler
