import TokenAuthority.Proofs.Time.Seconds

/-!
Lifetimes in whole seconds.

A store keeps an entry for whole seconds, which are taken through a rounded quotient.  Rounding
never turns the order of two durations, and taking whole seconds loses none that has passed and
gains one at most.  Up to 2^34 seconds it gains none, so that the lifetime is the floor of the
quotient there; just beyond, the last microseconds of a second may count as the next one.
-/

namespace TokenAuthority

open Binary64 Seconds

namespace Duration

theorem isCounted_of_isInRange {duration : Int} (inRange : isInRange duration = true) :
    IsCounted duration := by
  unfold isInRange least greatest at inRange
  rw [Bool.and_eq_true, decide_eq_true_eq, decide_eq_true_eq] at inRange
  unfold IsCounted microsecondsPerSecond
  omega

end Duration

theorem signedUnits_div (negative : Bool) (units divisor : Nat) :
    signedUnits negative (units / divisor) = (signedUnits negative units).tdiv divisor := by
  cases negative with
  | false => exact Int.ofNat_tdiv units divisor
  | true =>
      show -((units / divisor : Nat) : Int) = (-(units : Int)).tdiv divisor
      rw [Int.neg_tdiv, ← Int.ofNat_tdiv]

theorem wholeSecondsOf_eq_tdiv {duration : Int} (counted : IsCounted duration) :
    wholeSecondsOf duration =
      (signedUnits (decide (duration < 0)) (units duration.natAbs)).tdiv one := by
  unfold wholeSecondsOf
  rw [secondsOf_eq counted, ← signedUnits_div]
  rfl

/-- Whole seconds keep the order of durations. -/
theorem wholeSecondsOf_mono {shorter longer : Int} (shorterCounted : IsCounted shorter)
    (longerCounted : IsCounted longer) (ordered : shorter ≤ longer) :
    wholeSecondsOf shorter ≤ wholeSecondsOf longer := by
  have rounded : (secondsOf shorter).atMost (secondsOf longer) = true :=
    ofRatio_mono microsecondsPerSecond_pos ordered
  have ahead : (0 : Int) < one := Int.natCast_pos.mpr Binary64.one_pos
  rw [secondsOf_eq shorterCounted, secondsOf_eq longerCounted] at rounded
  rw [wholeSecondsOf_eq_tdiv shorterCounted, wholeSecondsOf_eq_tdiv longerCounted]
  exact Int.tdiv_le_tdiv ahead (of_decide_eq_true rounded)

theorem wholeSecondsOf_nonpos {duration : Int} (counted : IsCounted duration)
    (negative : duration < 0) : wholeSecondsOf duration ≤ 0 := by
  have zero : wholeSecondsOf 0 = 0 := wholeSecondsOf_near (by decide)
  rw [← zero]
  exact wholeSecondsOf_mono counted (by decide) (Int.le_of_lt negative)

/-- Taking whole seconds loses none that has passed and gains one at most. -/
theorem wholeSecondsOf_between {duration : Int} (counted : IsCounted duration)
    (nonnegative : 0 ≤ duration) :
    duration / microsecondsPerSecond ≤ wholeSecondsOf duration ∧
      wholeSecondsOf duration ≤ duration / microsecondsPerSecond + 1 := by
  have begun : duration / microsecondsPerSecond * microsecondsPerSecond ≤ duration := by
    unfold microsecondsPerSecond
    omega
  have gained := natAbs_wholeSecondsOf_le counted
  refine ⟨le_wholeSecondsOf counted begun, ?_⟩
  unfold microsecondsPerSecond at gained ⊢
  omega

namespace Duration

theorem storeSeconds_of_neg {duration : Int} (counted : IsCounted duration)
    (negative : duration < 0) : storeSeconds duration = 1 := by
  unfold storeSeconds
  have := wholeSecondsOf_nonpos counted negative
  omega

/-- Up to 2^34 seconds the lifetime is exact. -/
theorem storeSeconds_of_le {duration : Int} (counted : IsCounted duration)
    (bounded : duration ≤ nearLimit) :
    storeSeconds duration = max 1 (duration / microsecondsPerSecond) := by
  by_cases negative : duration < 0
  · rw [storeSeconds_of_neg counted negative]
    unfold microsecondsPerSecond
    omega
  · have nonnegative : 0 ≤ duration := Int.not_lt.mp negative
    have near : IsNear duration := by
      unfold IsNear
      omega
    unfold storeSeconds
    rw [wholeSecondsOf_near near, Int.tdiv_eq_ediv_of_nonneg nonnegative]

/-- Beyond 2^34 seconds the lifetime may be a second longer than what has passed. -/
theorem storeSeconds_of_gt {duration : Int} (counted : IsCounted duration)
    (beyond : nearLimit < duration) :
    storeSeconds duration = duration / microsecondsPerSecond ∨
      storeSeconds duration = duration / microsecondsPerSecond + 1 := by
  obtain ⟨atLeast, atMost⟩ := wholeSecondsOf_between counted (by omega)
  unfold nearLimit at beyond
  unfold storeSeconds
  unfold microsecondsPerSecond at *
  omega

/-- The lifetime of an entry is at least one second, grows with the duration that it is taken from,
and is that duration's floor in seconds, but for one second that may be gained where there are more
than 2^34 of them. -/
theorem storeSeconds_floor (duration : Int) (inRange : isInRange duration = true) :
    1 ≤ storeSeconds duration ∧
      (∀ longer, isInRange longer = true → duration ≤ longer →
        storeSeconds duration ≤ storeSeconds longer) ∧
      (duration ≤ 2 ^ 34 * 10 ^ 6 → storeSeconds duration = max 1 (duration / 10 ^ 6)) ∧
      (2 ^ 34 * 10 ^ 6 < duration →
        storeSeconds duration = duration / 10 ^ 6 ∨
          storeSeconds duration = duration / 10 ^ 6 + 1) := by
  have counted := isCounted_of_isInRange inRange
  refine ⟨Int.le_max_left _ _, ?_, ?_, ?_⟩
  · intro longer longerInRange ordered
    exact Int.max_le.mpr ⟨Int.le_max_left _ _, Int.le_trans
      (wholeSecondsOf_mono counted (isCounted_of_isInRange longerInRange) ordered)
      (Int.le_max_right _ _)⟩
  · exact storeSeconds_of_le counted
  · exact storeSeconds_of_gt counted

/-- One microsecond before the end of its last second, a duration just beyond 2^34 seconds. -/
theorem storeSeconds_floor_beyond :
    isInRange 17179869184999999 = true ∧
      (storeSeconds 17179869184999999 = 17179869184999999 / 10 ^ 6 ∨
        storeSeconds 17179869184999999 = 17179869184999999 / 10 ^ 6 + 1) := by
  have inRange : isInRange 17179869184999999 = true := by decide
  exact ⟨inRange, (storeSeconds_floor 17179869184999999 inRange).2.2.2 (by decide)⟩

/-- There the second is gained. -/
example : storeSeconds 17179869184999999 = 17179869185 := by
  decide +kernel

end Duration

end TokenAuthority
