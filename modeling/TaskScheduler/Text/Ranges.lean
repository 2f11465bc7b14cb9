/-
  Sets of characters that are given by ranges of code points.
-/
namespace TaskScheduler.Text

/-- The character lies in one of the ranges, which include both their ends. -/
def inRanges (ranges : List (Nat × Nat)) (c : Char) : Bool :=
  ranges.any fun (low, high) => low ≤ c.toNat && c.toNat ≤ high

end TaskScheduler.Text
