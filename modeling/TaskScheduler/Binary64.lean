/-
  Numbers with 53 significant bits.

  `ofRatio?` rounds a fraction to the nearest such number, and a tie to the one whose mantissa is
  even; products, quotients and powers of ten are rounded in the same way. Signs are set apart: all
  arithmetic here is on magnitudes.
-/
namespace TaskScheduler

/-- The number `mantissa * 2 ^ exponent`, or its negative. The mantissa has 53 bits, or fewer at the
least exponent. -/
structure Binary64 where
  negative : Bool := false
  mantissa : Nat
  exponent : Int
deriving DecidableEq, Repr, Inhabited

namespace Binary64

/-- The exponent of the smallest numbers. -/
def leastExponent : Int := -1074

/-- The exponent of the largest numbers. -/
def greatestExponent : Int := 971

/-- The least number that is no mantissa, `2 ^ 53`. -/
def mantissaBound : Nat := 9007199254740992

def zero : Binary64 := { mantissa := 0, exponent := leastExponent }

/-- A natural number times a power of two, as a fraction. -/
def shifted (n : Nat) (e : Int) : Nat × Nat :=
  if 0 ≤ e then (n <<< e.toNat, 1) else (n, 1 <<< (-e).toNat)

/-- A fraction rounded to the nearest natural number, and a half to the even one. -/
def roundHalfEven (num den : Nat) : Nat :=
  let low := num / den
  let twice := 2 * (num % den)
  if twice < den || (twice == den && low % 2 == 0) then low else low + 1

/-- The exponent at which a positive fraction has a mantissa of 53 bits, if it is not below the
least one. -/
def exponentOf (num den : Nat) : Int :=
  let low : Int := (Nat.log2 num : Int) - Nat.log2 den - 53
  let (n, d) := shifted num (-low)
  max leastExponent (if n / (d * den) < mantissaBound then low else low + 1)

/-- The number nearest to a fraction, or `none` if all numbers are smaller. -/
def ofRatio? (num den : Nat) : Option Binary64 :=
  if num = 0 then some zero
  else
    let exponent := exponentOf num den
    let (n, d) := shifted num (-exponent)
    let mantissa := roundHalfEven n (d * den)
    let rounded : Binary64 :=
      if mantissa < mantissaBound then { mantissa, exponent }
      else { mantissa := mantissa / 2, exponent := exponent + 1 }
    if rounded.exponent ≤ greatestExponent then some rounded else none

def mul? (x y : Binary64) : Option Binary64 :=
  let (n, d) := shifted (x.mantissa * y.mantissa) (x.exponent + y.exponent)
  ofRatio? n d

def div? (x y : Binary64) : Option Binary64 :=
  let (n, d) := shifted x.mantissa (x.exponent - y.exponent)
  ofRatio? n (d * y.mantissa)

/-- The greatest power of ten that is not too large, as an exponent. -/
def greatestPower : Nat := 308

def powerOfTen? (n : Nat) : Option Binary64 := ofRatio? (Nat.pow 10 n) 1

/-- A number divided by a power of ten, by the greatest one first if the power is greater than it.
It is divided at most as often as `tries` says. -/
def overPowerOfTen? (x : Binary64) (n : Nat) : Nat → Option Binary64
  | 0 => some x
  | tries + 1 =>
    if x.mantissa = 0 then some x
    else if n ≤ greatestPower then (powerOfTen? n).bind x.div?
    else
      match (powerOfTen? greatestPower).bind x.div? with
      | some y => overPowerOfTen? y (n - greatestPower) tries
      | none => none

/-- A number times a power of ten, which is rounded before it is applied. -/
def timesPowerOfTen? (x : Binary64) (e : Int) : Option Binary64 :=
  if x.mantissa = 0 then some x
  else if e < 0 then overPowerOfTen? x e.natAbs e.natAbs
  else if e ≤ greatestPower then (powerOfTen? e.toNat).bind x.mul?
  else none

end Binary64

end TaskScheduler
