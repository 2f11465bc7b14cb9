import Mathlib.Algebra.Order.Ring.Nat
import TaskScheduler.Clock

/-
  How a deadline is found on a clock that comes to an end.

  `Halves headroom n delay rest` is the loop that looks for a delay which still fits: it goes round
  `n` times and comes to `rest`. `exists_halves`: the loop ends, and `fitDelay` is what it comes to.
  `Halves.eq_div`, `Halves.too_long`, `Halves.headroom_le`: what is left is the delay over a power
  of two, no smaller power would do, and what is left is at least half of the headroom.
  `deadline_within_reach` puts this together for a whole deadline.
-/
namespace TaskScheduler

/-- A delay is halved `n` times, each time because it is longer than the headroom, and what is left
fits. -/
inductive Halves (headroom : Nat) : Nat → Nat → Nat → Prop where
  | fits {delay : Nat} : delay ≤ headroom → Halves headroom 0 delay delay
  | halved {n delay rest : Nat} : headroom < delay → Halves headroom n (delay / 2) rest →
      Halves headroom (n + 1) delay rest

variable {headroom n delay rest : Nat}

/-- The loop ends, and comes to `fitDelay`. -/
theorem exists_halves (headroom delay : Nat) :
    ∃ n, Halves headroom n delay (fitDelay headroom delay) := by
  fun_induction fitDelay headroom delay with
  | case1 delay hfits => exact ⟨0, .fits hfits⟩
  | case2 delay hlong ih =>
    obtain ⟨n, hhalves⟩ := ih
    exact ⟨n + 1, .halved (Nat.lt_of_not_le hlong) hhalves⟩

theorem Halves.rest_le (h : Halves headroom n delay rest) : rest ≤ headroom := by
  induction h with
  | fits hfits => exact hfits
  | halved _ _ ih => exact ih

theorem Halves.eq_div (h : Halves headroom n delay rest) : rest = delay / 2 ^ n := by
  induction h with
  | fits _ => rw [Nat.pow_zero, Nat.div_one]
  | halved _ _ ih => rw [ih, Nat.pow_succ', Nat.div_div_eq_div_mul]

/-- Before its last round the loop has nothing that fits. -/
theorem Halves.too_long {j : Nat} (h : Halves headroom n delay rest) (hj : j < n) :
    headroom < delay / 2 ^ j := by
  induction h generalizing j with
  | fits _ => exact absurd hj (Nat.not_lt_zero j)
  | halved hlong _ ih =>
    cases j with
    | zero => rwa [Nat.pow_zero, Nat.div_one]
    | succ j =>
      rw [Nat.pow_succ', ← Nat.div_div_eq_div_mul]
      exact ih (Nat.lt_of_succ_lt_succ hj)

/-- What was halved last was too long, so what is left is not less than half of the headroom. -/
theorem Halves.headroom_le (h : Halves headroom n delay rest) (hn : 0 < n) :
    headroom ≤ 2 * rest := by
  obtain ⟨k, rfl⟩ := Nat.exists_eq_add_of_lt hn
  rw [Nat.zero_add] at h
  have hlong : headroom < delay / 2 ^ k := h.too_long (Nat.lt_succ_self k)
  have hrest : rest = delay / 2 ^ k / 2 := by
    rw [h.eq_div, Nat.pow_succ, Nat.div_div_eq_div_mul]
  omega

/-- The loop goes round as often as the delay has binary digits, at most. -/
theorem Halves.rounds_le {bits : Nat} (h : Halves headroom n delay rest)
    (hdelay : delay < 2 ^ bits) : n ≤ bits := by
  refine Nat.le_of_not_lt fun hlt => ?_
  have hlong := h.too_long hlt
  rw [Nat.div_eq_of_lt hdelay] at hlong
  exact Nat.not_lt_zero headroom hlong

theorem Halves.rounds_pos (h : Halves headroom n delay rest) (hlong : headroom < delay) :
    0 < n := by
  cases h with
  | fits hfits => exact absurd hlong (Nat.not_lt_of_le hfits)
  | halved _ _ => exact Nat.succ_pos _

/-- The loop keeps the whole delay if and only if that fits. -/
theorem Halves.rest_eq_iff (h : Halves headroom n delay rest) :
    rest = delay ↔ delay ≤ headroom := by
  constructor
  · intro hsame
    exact hsame ▸ h.rest_le
  · intro hfits
    cases h with
    | fits _ => rfl
    | halved hlong _ => exact absurd hfits (Nat.not_le_of_lt hlong)

theorem Halves.rest_le_delay (h : Halves headroom n delay rest) : rest ≤ delay := by
  rw [h.eq_div]
  exact Nat.div_le_self _ _

/-- Nothing is left only if there was nothing, or there is no headroom. -/
theorem Halves.rest_eq_zero_iff (h : Halves headroom n delay rest) :
    rest = 0 ↔ delay = 0 ∨ headroom = 0 := by
  have hle := h.rest_le
  have hshorter := h.rest_le_delay
  constructor
  · intro hnone
    rcases Nat.eq_zero_or_pos n with rfl | hn
    · have hsame := h.eq_div
      rw [Nat.pow_zero, Nat.div_one] at hsame
      exact .inl (hsame.symm.trans hnone)
    · have hhalf := h.headroom_le hn
      exact .inr (by omega)
  · rintro (hnone | hnone)
    · omega
    · omega

theorem maxDelay_lt : maxDelay.nanos < 2 ^ 62 := by decide

theorem honoured_eq_zero_iff (delay : Duration) :
    (min delay maxDelay).nanos = 0 ↔ delay = .zero := by
  have hmax : 0 < maxDelay.nanos := by decide
  rw [Duration.nanos_min, Duration.ext_iff, Duration.nanos_zero]
  omega

/-- A delay of some nanoseconds from a base is over at the base only if there are none. -/
theorem after_eq_base_iff (base : Int) (d : Nat) : base + d = base ↔ d = 0 := by omega

/-- A deadline on a clock that ends `headroom` after the base. The loop that looks for it ends
within 62 rounds. It keeps all that is honoured of the delay if and only if that fits; otherwise it
comes to the first half, quarter and so on that does, rounded down, which is at least half of the
headroom. So a deadline never lies beyond the end of the clock, before its base, or after the delay,
and it is the base itself only if there is no delay or no headroom. -/
theorem deadline_within_reach (base : Instant) (headroom : Nat) (delay : Duration) :
    let honoured := (min delay maxDelay).nanos
    let found := deadline (base + headroom) base delay
    ∃ rounds d : Nat, found = base + d ∧ Halves headroom rounds honoured d ∧ rounds ≤ 62 ∧
      (d = honoured ↔ honoured ≤ headroom) ∧
      (headroom < honoured → d ≤ headroom ∧ headroom ≤ 2 * d) ∧
      d = honoured / 2 ^ rounds ∧ (∀ j < rounds, headroom < honoured / 2 ^ j) ∧
      found ≤ base + headroom ∧ base ≤ found ∧ found ≤ base + honoured ∧
      (found = base ↔ delay = .zero ∨ headroom = 0) := by
  intro honoured found
  obtain ⟨rounds, hhalves⟩ := exists_halves headroom honoured
  have hfound : found = base + fitDelay headroom honoured := by
    have hreach : (base + headroom - base).toNat = headroom := by omega
    rw [← hreach]
    exact deadline_eq ..
  have hbits : honoured < 2 ^ 62 := by
    have hmin : honoured = min delay.nanos maxDelay.nanos := Duration.nanos_min ..
    exact Nat.lt_of_le_of_lt (hmin ▸ Nat.min_le_right ..) maxDelay_lt
  refine ⟨rounds, _, hfound, hhalves, hhalves.rounds_le hbits, hhalves.rest_eq_iff,
    fun hlong => ?_, hhalves.eq_div, fun j => hhalves.too_long, ?_, le_deadline .., ?_, ?_⟩
  · exact ⟨hhalves.rest_le, hhalves.headroom_le (hhalves.rounds_pos hlong)⟩
  · rw [hfound]
    exact Int.add_le_add_left (Int.ofNat_le.mpr hhalves.rest_le) base
  · rw [hfound]
    exact Int.add_le_add_left (Int.ofNat_le.mpr hhalves.rest_le_delay) base
  · rw [hfound, after_eq_base_iff, hhalves.rest_eq_zero_iff]
    exact or_congr_left (honoured_eq_zero_iff delay)

/-- A delay of 3001 nanoseconds on a clock that ends after 1000: two rounds leave 750. -/
theorem deadline_before_clock_end :
    let delay : Duration := ⟨3001, by decide⟩
    1000 < (min delay maxDelay).nanos ∧ deadline 1000 0 delay = 750 ∧
      ∃ d : Nat, deadline 1000 0 delay = 0 + d ∧ d ≤ 1000 ∧ 1000 ≤ 2 * d := by
  intro delay
  have hlong : 1000 < (min delay maxDelay).nanos := by decide
  obtain ⟨rounds, d, hfound, -, -, -, hhalf, -⟩ := deadline_within_reach 0 1000 delay
  refine ⟨hlong, ?_, d, hfound, hhalf hlong⟩
  rw [deadline_eq, fitDelay, if_neg (by decide), fitDelay, if_neg (by decide), fitDelay,
    if_pos (by decide)]
  decide

end TaskScheduler
