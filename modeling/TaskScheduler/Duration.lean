import TaskScheduler.Text.Numeral

/-
  Lengths of time, counted in nanoseconds.

  A duration holds fewer than `2^64` seconds, so sums and products stop at the largest one
  (`Duration.max`) instead of growing past it.
-/
namespace TaskScheduler

/-- The number of nanoseconds in a microsecond. -/
def nanosPerMicro : Nat := 1000

/-- The number of nanoseconds in a millisecond. -/
def nanosPerMilli : Nat := 1000000

/-- The number of nanoseconds in a second. -/
def nanosPerSecond : Nat := 1000000000

/-- The least number of nanoseconds that no duration holds. -/
def Duration.limit : Nat := wordBound * nanosPerSecond

/-- A length of time below `2^64` seconds, exact to the nanosecond. -/
@[ext]
structure Duration where
  nanos : Nat
  nanos_lt : nanos < Duration.limit
deriving DecidableEq, Repr

namespace Duration

/-- The largest duration: `2^64 - 1` seconds and `999999999` nanoseconds. -/
def max : Duration := ⟨limit - 1, by decide⟩

/-- The duration of `n` nanoseconds, or the largest duration if that is too long. -/
def ofNanos (n : Nat) : Duration := if h : n < limit then ⟨n, h⟩ else max

/-- The duration of `n` seconds, or the largest duration if that is too long. -/
def ofSeconds (n : Nat) : Duration := ofNanos (n * nanosPerSecond)

/-- The duration of `n` milliseconds, or the largest duration if that is too long. -/
def ofMillis (n : Nat) : Duration := ofNanos (n * nanosPerMilli)

/-- No time at all. -/
def zero : Duration := ⟨0, by decide⟩

instance : Inhabited Duration := ⟨zero⟩

/-- The whole seconds of a duration. -/
def seconds (d : Duration) : Nat := d.nanos / nanosPerSecond

/-- The nanoseconds of a duration beyond its whole seconds. -/
def subsecNanos (d : Duration) : Nat := d.nanos % nanosPerSecond

/-- The whole milliseconds of a duration. -/
def millis (d : Duration) : Nat := d.nanos / nanosPerMilli

def isZero (d : Duration) : Bool := d.nanos == 0

instance : LE Duration := ⟨fun a b => a.nanos ≤ b.nanos⟩
instance : LT Duration := ⟨fun a b => a.nanos < b.nanos⟩
instance (a b : Duration) : Decidable (a ≤ b) := inferInstanceAs (Decidable (a.nanos ≤ b.nanos))
instance (a b : Duration) : Decidable (a < b) := inferInstanceAs (Decidable (a.nanos < b.nanos))
instance : Min Duration := ⟨fun a b => if a ≤ b then a else b⟩

/-- `k` times a duration, stopping at the largest one. -/
def saturatingMul (d : Duration) (k : Nat) : Duration := ofNanos (d.nanos * k)

theorem le_def {a b : Duration} : a ≤ b ↔ a.nanos ≤ b.nanos := Iff.rfl

theorem lt_def {a b : Duration} : a < b ↔ a.nanos < b.nanos := Iff.rfl

@[simp] theorem nanos_zero : zero.nanos = 0 := rfl

theorem nanos_ofNanos (n : Nat) : (ofNanos n).nanos = Nat.min n (limit - 1) := by
  unfold ofNanos
  split
  · rename_i h
    simp only [Nat.min_def]
    split <;> omega
  · rename_i h
    have : limit - 1 < limit := by decide
    simp only [max, Nat.min_def]
    split <;> omega

@[simp] theorem nanos_min (a b : Duration) : (min a b).nanos = min a.nanos b.nanos := by
  show (if a ≤ b then a else b).nanos = min a.nanos b.nanos
  simp only [le_def]
  split <;> omega

theorem nanos_saturatingMul (d : Duration) (k : Nat) :
    (d.saturatingMul k).nanos = Nat.min (d.nanos * k) (limit - 1) :=
  nanos_ofNanos _

/-! ## Whole seconds and milliseconds -/

theorem nanos_ofSeconds {n : Nat} (h : n < wordBound) :
    (ofSeconds n).nanos = n * nanosPerSecond := by
  have hfits : n * nanosPerSecond < limit := Nat.mul_lt_mul_of_pos_right h (by decide)
  rw [ofSeconds, ofNanos, dif_pos hfits]

theorem nanos_ofMillis {n : Nat} (h : n < wordBound) : (ofMillis n).nanos = n * nanosPerMilli := by
  have hfits : n * nanosPerMilli < limit :=
    Nat.lt_of_lt_of_le (Nat.mul_lt_mul_of_pos_right h (by decide))
      (Nat.mul_le_mul_left wordBound (by decide))
  rw [ofMillis, ofNanos, dif_pos hfits]

theorem seconds_ofSeconds {n : Nat} (h : n < wordBound) : (ofSeconds n).seconds = n := by
  rw [seconds, nanos_ofSeconds h, Nat.mul_div_cancel n (by decide)]

theorem millis_ofMillis {n : Nat} (h : n < wordBound) : (ofMillis n).millis = n := by
  rw [millis, nanos_ofMillis h, Nat.mul_div_cancel n (by decide)]

theorem seconds_lt (d : Duration) : d.seconds < wordBound :=
  Nat.div_lt_of_lt_mul (Nat.mul_comm .. ▸ d.nanos_lt)

theorem ofSeconds_seconds {d : Duration} (h : d.subsecNanos = 0) : ofSeconds d.seconds = d := by
  refine Duration.ext ?_
  rw [nanos_ofSeconds d.seconds_lt]
  exact Nat.div_mul_cancel (Nat.dvd_of_mod_eq_zero h)

theorem ofMillis_millis {d : Duration} (hlt : d.millis < wordBound)
    (h : d.nanos % nanosPerMilli = 0) : ofMillis d.millis = d := by
  refine Duration.ext ?_
  rw [nanos_ofMillis hlt]
  exact Nat.div_mul_cancel (Nat.dvd_of_mod_eq_zero h)

theorem le_seconds_iff {n : Nat} {d : Duration} (h : n < wordBound) :
    n ≤ d.seconds ↔ ofSeconds n ≤ d := by
  rw [le_def, nanos_ofSeconds h]
  exact Nat.le_div_iff_mul_le (by decide)

theorem le_millis_iff {n : Nat} {d : Duration} (h : n < wordBound) :
    n ≤ d.millis ↔ ofMillis n ≤ d := by
  rw [le_def, nanos_ofMillis h]
  exact Nat.le_div_iff_mul_le (by decide)

theorem millis_le {n : Nat} {d : Duration} (h : n < wordBound) (hd : d ≤ ofMillis n) :
    d.millis ≤ n := by
  rw [le_def, nanos_ofMillis h, Nat.mul_comm] at hd
  exact Nat.div_le_of_le_mul hd

end Duration

end TaskScheduler
