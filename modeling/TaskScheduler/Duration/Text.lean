import TaskScheduler.Duration
import TaskScheduler.Text.Numeral

/-
  The short text of a duration: the largest of `s`, `ms`, `µs`, `ns` that gives a whole part,
  with as many decimals as are needed, as in `1.5s` or `999.999µs`.
-/
namespace TaskScheduler.Duration

open Text

/-- The `width` decimals of `part`, without the zeros at the end. -/
def decimals (width part : Nat) : List Char :=
  let ds := Numeral.digits part
  ((List.replicate (width - ds.length) '0' ++ ds).reverse.dropWhile (· == '0')).reverse

/-- A whole part and a fraction of `width` decimals, followed by a unit. -/
def withUnit (whole width part : Nat) (unit : String) : String :=
  match decimals width part with
  | [] => Numeral.ofNat whole ++ unit
  | ds => Numeral.ofNat whole ++ "." ++ String.ofList ds ++ unit

/-- The short text of a duration. -/
def text (d : Duration) : String :=
  if d.nanos ≥ nanosPerSecond then withUnit d.seconds 9 d.subsecNanos "s"
  else if d.nanos ≥ nanosPerMilli then
    withUnit (d.nanos / nanosPerMilli) 6 (d.nanos % nanosPerMilli) "ms"
  else if d.nanos ≥ nanosPerMicro then
    withUnit (d.nanos / nanosPerMicro) 3 (d.nanos % nanosPerMicro) "µs"
  else withUnit d.nanos 0 0 "ns"

end TaskScheduler.Duration
