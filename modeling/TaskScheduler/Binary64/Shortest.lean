import TaskScheduler.Binary64

/-
  The shortest decimal fraction that rounds to a given number of 53 significant bits.

  The fractions that round to the number `m * 2 ^ e` lie between the two points half way to its
  neighbours, the points themselves included if `m` is even. Of the grids of all multiples of a
  power of ten the coarsest one is taken that has a point there, and of its points the nearest one;
  of two that are equally near, the even multiple.
-/
namespace TaskScheduler.Binary64

/-- The quarters between a number and the point half way to the number below it; numbers are closer
below a power of two. -/
def quartersBelow (x : Binary64) : Nat :=
  if x.mantissa == mantissaBound / 2 && leastExponent < x.exponent then 1 else 2

/-- The nearest point of a grid that rounds to the number, if there is one, as a multiple of the
power of ten. -/
def gridPoint? (x : Binary64) (power : Int) : Option Nat :=
  let (quarter, quarterDen) := shifted 1 (x.exponent - 2)
  let (unit, unitDen) : Nat × Nat :=
    if 0 ≤ power then (Nat.pow 10 power.toNat, 1) else (1, Nat.pow 10 (-power).toNat)
  let quarter := quarter * unitDen
  let unit := unit * quarterDen
  let value := 4 * x.mantissa * quarter
  let low := value - x.quartersBelow * quarter
  let high := value + 2 * quarter
  let within (n : Nat) : Bool :=
    if x.mantissa % 2 == 0 then low ≤ n * unit && n * unit ≤ high
    else low < n * unit && n * unit < high
  let n := value / unit
  match within n, within (n + 1) with
  | true, true => some (roundHalfEven value unit)
  | true, false => some n
  | false, true => some (n + 1)
  | false, false => none

/-- Looks for the coarsest grid with a point, from a power of ten downwards. -/
def shortestFrom (x : Binary64) (power : Int) : Nat → Nat × Int
  | 0 => (0, power)
  | tries + 1 =>
    match x.gridPoint? power with
    | some n => (n, power)
    | none => shortestFrom x (power - 1) tries

/-- A power of ten above a positive number. -/
def powerAbove (x : Binary64) : Int :=
  (Nat.log2 x.mantissa + 1 + x.exponent) * 30103 / 100000 + 1

/-- The digits of the shortest fraction that rounds to a positive number, and the power of ten of
the last one. Seventeen digits are always enough. -/
def shortest (x : Binary64) : Nat × Int := shortestFrom x x.powerAbove 20

end TaskScheduler.Binary64
