import TaskScheduler.Duration

/-
  Instants of a monotone clock, and deadlines that never run past the clock's end.

  `deadline_eq`: a deadline is the base plus what `fitDelay` leaves of the clamped delay.
  A delay that fits is kept whole (`fitDelay_eq_self`), so a deadline is the base plus the delay, if
  the clock gets that far (`deadline_of_fits`).
-/
namespace TaskScheduler

/-- A point on the clock, in nanoseconds from an arbitrary origin. -/
abbrev Instant := Int

/-- The time from `earlier` to `later` in nanoseconds, and `0` if `later` is not after it. -/
def elapsedSince (later earlier : Instant) : Nat := (later - earlier).toNat

/-- The longest delay or period that is honoured: a hundred years of 365 days. -/
def maxDelay : Duration := .ofSeconds (100 * 365 * 24 * 60 * 60)

/-- Halves a delay until it is at most `headroom`. -/
def fitDelay (headroom delay : Nat) : Nat :=
  if delay ≤ headroom then delay else fitDelay headroom (delay / 2)
termination_by delay
decreasing_by omega

/-- `delay` after `base`: at most `maxDelay`, and halved until it is no later than `last`. -/
def deadline (last base : Instant) (delay : Duration) : Instant :=
  base + fitDelay (last - base).toNat (min delay maxDelay).nanos

theorem fitDelay_eq_self {headroom delay : Nat} (h : delay ≤ headroom) :
    fitDelay headroom delay = delay := by
  rw [fitDelay, if_pos h]

theorem deadline_eq (last base : Instant) (delay : Duration) :
    deadline last base delay =
      base + fitDelay (last - base).toNat (min delay maxDelay).nanos := rfl

/-- A deadline is not before its base. -/
theorem le_deadline (last base : Instant) (delay : Duration) : base ≤ deadline last base delay :=
  Int.le_add_of_nonneg_right (Int.natCast_nonneg _)

/-- What is honoured of a delay is kept whole, if it ends in time. -/
theorem deadline_of_clamped_fits {last base : Instant} {delay : Duration}
    (hfits : base + (min delay maxDelay).nanos ≤ last) :
    deadline last base delay = base + (min delay maxDelay).nanos := by
  have hheadroom : (min delay maxDelay).nanos ≤ (last - base).toNat :=
    Int.ofNat_le.mp (Int.le_trans (Int.le_sub_left_of_add_le hfits) (Int.self_le_toNat _))
  rw [deadline_eq, fitDelay_eq_self hheadroom]

/-- A delay that is honoured and ends in time is kept whole. -/
theorem deadline_of_fits {last base : Instant} {delay : Duration} (hmax : delay ≤ maxDelay)
    (hfits : base + delay.nanos ≤ last) : deadline last base delay = base + delay.nanos := by
  have hmin : (min delay maxDelay).nanos = delay.nanos := by
    rw [Duration.nanos_min]
    exact Nat.min_eq_left hmax
  rw [← hmin] at hfits ⊢
  exact deadline_of_clamped_fits hfits

end TaskScheduler
