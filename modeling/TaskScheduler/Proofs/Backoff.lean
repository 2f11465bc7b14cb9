import Mathlib.Algebra.Order.Ring.Nat
import TaskScheduler.Config

/-
  The wait between two hand-offs of a record.

  The number of the attempt is the exponent of a power of two that stops at the largest word of 32
  bits (`backoffFactor_eq_min`), and the product with the first wait stops at the longest duration.
  Both are far beyond a second, at which the wait itself stops, so neither is to be seen
  (`nanos_backoffAfter`).

  `backoff_doubles_up_to_second` says so for every first wait and every number of failures.
-/
namespace TaskScheduler.DispatcherConfig

/-- The factor is a power of two that stops at the largest word of 32 bits. -/
theorem backoffFactor_eq_min (failures : Nat) :
    backoffFactor failures = min (2 ^ (failures - 1)) (2 ^ 32 - 1) := by
  unfold backoffFactor
  split
  next hfew =>
    have hpower : 2 ^ (failures - 1) ≤ 2 ^ 31 := Nat.pow_le_pow_right (by decide) (by omega)
    show 2 ^ (failures - 1) = _
    omega
  next hmany =>
    have hpower : 2 ^ 32 ≤ 2 ^ (failures - 1) := Nat.pow_le_pow_right (by decide) (by omega)
    omega

/-- Where the product stops at a second, it makes no difference that the factor stops at a word. -/
theorem min_product_cut (wait factor : Nat) :
    min (wait * min factor (2 ^ 32 - 1)) nanosPerSecond = min (wait * factor) nanosPerSecond := by
  have hsecond : nanosPerSecond ≤ 2 ^ 32 - 1 := by decide
  rcases Nat.le_total factor (2 ^ 32 - 1) with hfits | hstops
  · rw [Nat.min_eq_left hfits]
  · rw [Nat.min_eq_right hstops]
    -- A wait of nothing stays nothing; any other makes more than a second of a word.
    rcases Nat.eq_zero_or_pos wait with rfl | hwait
    · simp
    · have hcut : 2 ^ 32 - 1 ≤ wait * (2 ^ 32 - 1) := Nat.le_mul_of_pos_left _ hwait
      have hwhole : factor ≤ wait * factor := Nat.le_mul_of_pos_left _ hwait
      omega

/-- The wait after some failed hand-offs: the first one, doubled with each of the others, or a
second if that is less. -/
theorem nanos_backoffAfter (c : DispatcherConfig) (failures : Nat) :
    (c.backoffAfter failures).nanos =
      min (c.retryBackoff.nanos * Nat.pow 2 (failures - 1)) nanosPerSecond := by
  have hsecond : maxBackoff.nanos = nanosPerSecond := by decide
  have hlongest : nanosPerSecond ≤ Duration.limit - 1 := by decide
  have hpower := min_product_cut c.retryBackoff.nanos (Nat.pow 2 (failures - 1))
  rw [backoffAfter, Duration.nanos_min, Duration.nanos_saturatingMul, hsecond, ← hpower,
    backoffFactor_eq_min]
  show min (min _ _) _ = min _ _
  rw [Nat.pow_eq]
  omega

theorem backoffAfter_le_second (c : DispatcherConfig) (failures : Nat) :
    (c.backoffAfter failures).nanos ≤ nanosPerSecond := by
  rw [nanos_backoffAfter]
  exact Nat.min_le_right _ _

theorem backoffAfter_mono (c : DispatcherConfig) :
    Monotone fun failures => (c.backoffAfter failures).nanos := by
  intro few many hle
  have hpower : Nat.pow 2 (few - 1) ≤ Nat.pow 2 (many - 1) :=
    Nat.pow_le_pow_right (by decide) (Nat.sub_le_sub_right hle 1)
  have hproduct := Nat.mul_le_mul_left c.retryBackoff.nanos hpower
  simp only [nanos_backoffAfter]
  omega

/-- The wait is what unbounded arithmetic makes of it: the first wait, doubled with each failure
after the first, or a second if that is less. So it is never shorter after more failures and never
longer than a second, although on the way the power stops at the largest word of 32 bits, and the
product at the longest duration. -/
theorem backoff_doubles_up_to_second (c : DispatcherConfig) :
    (∀ failures, (c.backoffAfter failures).nanos =
        min (c.retryBackoff.nanos * 2 ^ (max failures 1 - 1)) nanosPerSecond) ∧
      (Monotone fun failures => (c.backoffAfter failures).nanos) ∧
      (∀ failures, c.backoffAfter failures ≤ .ofSeconds 1) ∧
      (∀ failures, backoffFactor failures = min (2 ^ (max failures 1 - 1)) (2 ^ 32 - 1)) ∧
      (∀ failures, (c.retryBackoff.saturatingMul (backoffFactor failures)).nanos =
        min (c.retryBackoff.nanos * backoffFactor failures) Duration.max.nanos) := by
  have hexponent : ∀ failures, max failures 1 - 1 = failures - 1 := by omega
  simp only [hexponent]
  refine ⟨fun failures => nanos_backoffAfter c failures, backoffAfter_mono c, fun failures => ?_,
    backoffFactor_eq_min, fun failures => Duration.nanos_saturatingMul ..⟩
  exact Duration.le_def.mpr (backoffAfter_le_second c failures)

/-- After 40 failures the factor has stopped, but a first wait of a nanosecond has long become a
second. With the longest duration for the first wait the product stops at once, and the wait is a
second, too. -/
theorem stopped_factor_and_product_are_not_seen :
    let short := { standard with retryBackoff := ⟨1, by decide⟩ }
    let long := { standard with retryBackoff := .max }
    backoffFactor 40 < 2 ^ 39 ∧ (short.backoffAfter 40).nanos = min (2 ^ 39) nanosPerSecond ∧
      long.retryBackoff.saturatingMul (backoffFactor 2) = .max ∧
      (long.backoffAfter 2).nanos = min (Duration.max.nanos * 2) nanosPerSecond := by
  intro short long
  obtain ⟨hshort, -⟩ := backoff_doubles_up_to_second short
  obtain ⟨hlong, -, -, -, hproduct⟩ := backoff_doubles_up_to_second long
  refine ⟨by decide, (hshort 40).trans (by decide), Duration.ext ((hproduct 2).trans (by decide)),
    (hlong 2).trans (by decide)⟩

end TaskScheduler.DispatcherConfig
