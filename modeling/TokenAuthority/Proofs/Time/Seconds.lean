import TokenAuthority.Proofs.Number.Binary64
import TokenAuthority.Time.Duration
import TokenAuthority.Token.Claims

/-!
Seconds near 1970 are as good as exact.

Whole seconds are exact as long as there are fewer than 2^53 of them, which takes one far beyond the
calendar, and rounding carries no count of microseconds across one.  It may carry a count up to one,
but not near 1970: up to 2^34 seconds the binary64 numbers lie less than half a microsecond apart
from what they stand for.  There the rounded number of seconds lies on the same side of every whole
second as the count of microseconds does: comparing it with a claim and taking its whole seconds
give what they would give without any rounding.
-/

namespace TokenAuthority

open Binary64

/-- The microseconds up to which seconds are as good as exact. -/
def nearLimit : Nat := 2 ^ 34 * microsecondsPerSecond

/-- Whether an instant or a duration is no more than 2^34 seconds from zero. -/
def IsNear (microseconds : Int) : Prop :=
  microseconds.natAbs ≤ nearLimit

instance (microseconds : Int) : Decidable (IsNear microseconds) :=
  inferInstanceAs (Decidable (_ ≤ _))

/-- Whether an instant or a duration is less than 2^53 seconds from zero. -/
def IsCounted (microseconds : Int) : Prop :=
  microseconds.natAbs < 2 ^ 53 * microsecondsPerSecond

instance (microseconds : Int) : Decidable (IsCounted microseconds) :=
  inferInstanceAs (Decidable (_ < _))

theorem IsNear.isCounted {microseconds : Int} (near : IsNear microseconds) :
    IsCounted microseconds :=
  Nat.lt_of_le_of_lt near (by decide)

theorem isCounted_of_isInRange {instant : Int} (inCalendar : Instant.isInRange instant = true) :
    IsCounted instant := by
  unfold Instant.isInRange Instant.least Instant.greatest at inCalendar
  rw [Bool.and_eq_true, decide_eq_true_eq, decide_eq_true_eq] at inCalendar
  unfold IsCounted microsecondsPerSecond
  omega

namespace Seconds

theorem microsecondsPerSecond_pos : 0 < microsecondsPerSecond := by
  decide

/-- The magnitude of the number of seconds nearest to a count of microseconds. -/
def units (microseconds : Nat) : Nat :=
  roundUnits (microseconds * one) microsecondsPerSecond

section Counted

variable {microseconds seconds : Nat} (counted : microseconds < 2 ^ 53 * microsecondsPerSecond)

include counted

theorem lastBit_dvd_one :
    lastBit (microseconds * one / microsecondsPerSecond) ∣ one := by
  apply Binary64.lastBit_dvd_one
  apply Nat.div_lt_of_lt_mul
  calc microseconds * one
      < 2 ^ 53 * microsecondsPerSecond * one := Nat.mul_lt_mul_of_pos_right counted Binary64.one_pos
    _ ≤ microsecondsPerSecond * 2 ^ (1074 + 53) := by decide +kernel

/-- Rounding does not carry a count of microseconds across a whole second. -/
theorem mul_le_units (atLeast : seconds * microsecondsPerSecond ≤ microseconds) :
    seconds * one ≤ units microseconds := by
  apply le_roundUnits microsecondsPerSecond_pos
  · exact Nat.dvd_trans (lastBit_dvd_one counted) (Nat.dvd_mul_left one seconds)
  · rw [Nat.mul_right_comm]
    exact Nat.mul_le_mul_right one atLeast

theorem units_le_mul (atMost : microseconds ≤ seconds * microsecondsPerSecond) :
    units microseconds ≤ seconds * one := by
  apply roundUnits_le microsecondsPerSecond_pos
  · exact Nat.dvd_trans (lastBit_dvd_one counted) (Nat.dvd_mul_left one seconds)
  · rw [Nat.mul_right_comm]
    exact Nat.mul_le_mul_right one atMost

theorem units_of_eq_mul (isWhole : microseconds = seconds * microsecondsPerSecond) :
    units microseconds = seconds * one :=
  Nat.le_antisymm (units_le_mul counted (Nat.le_of_eq isWhole))
    (mul_le_units counted (Nat.le_of_eq isWhole.symm))

end Counted

theorem counted_of_le {microseconds : Nat} (bounded : microseconds ≤ nearLimit) :
    microseconds < 2 ^ 53 * microsecondsPerSecond :=
  Nat.lt_of_le_of_lt bounded (by decide)

/-- Less than a microsecond is lost or gained. -/
theorem units_near {microseconds : Nat} (bounded : microseconds < nearLimit) :
    units microseconds * microsecondsPerSecond < (microseconds + 1) * one ∧
      microseconds * one < units microseconds * microsecondsPerSecond + one := by
  have quotient : microseconds * one / microsecondsPerSecond < 2 ^ (1055 + 53) := by
    apply Nat.div_lt_of_lt_mul
    calc microseconds * one
        < nearLimit * one := Nat.mul_lt_mul_of_pos_right bounded Binary64.one_pos
      _ ≤ microsecondsPerSecond * 2 ^ (1055 + 53) := by decide +kernel
  have lost : microsecondsPerSecond * lastBit (microseconds * one / microsecondsPerSecond) <
      2 * one :=
    Nat.lt_of_le_of_lt (Nat.mul_le_mul_left _ (lastBit_le quotient)) (by decide +kernel)
  have near := roundUnits_near microsecondsPerSecond_pos (microseconds * one)
  have next : (microseconds + 1) * one = microseconds * one + one := Nat.succ_mul _ _
  unfold units
  rw [next]
  omega

theorem units_lt_mul {microseconds seconds : Nat} (bounded : microseconds ≤ nearLimit)
    (below : microseconds < seconds * microsecondsPerSecond) :
    units microseconds < seconds * one := by
  rcases Nat.lt_or_eq_of_le bounded with inside | atLimit
  · apply Nat.lt_of_mul_lt_mul_right
    calc units microseconds * microsecondsPerSecond
        < (microseconds + 1) * one := (units_near inside).1
      _ ≤ seconds * microsecondsPerSecond * one := Nat.mul_le_mul_right one below
      _ = seconds * one * microsecondsPerSecond := Nat.mul_right_comm _ _ _
  · rw [units_of_eq_mul (counted_of_le bounded) atLimit]
    rw [atLimit, nearLimit] at below
    exact Nat.mul_lt_mul_of_pos_right (Nat.lt_of_mul_lt_mul_right below) Binary64.one_pos

theorem mul_lt_units {microseconds seconds : Nat} (bounded : microseconds ≤ nearLimit)
    (above : seconds * microsecondsPerSecond < microseconds) :
    seconds * one < units microseconds := by
  rcases Nat.lt_or_eq_of_le bounded with inside | atLimit
  · apply Nat.lt_of_mul_lt_mul_right
    have atLeast : (seconds * microsecondsPerSecond + 1) * one ≤ microseconds * one :=
      Nat.mul_le_mul_right one above
    rw [Nat.succ_mul, Nat.mul_right_comm] at atLeast
    exact Nat.lt_of_add_lt_add_right (Nat.lt_of_le_of_lt atLeast (units_near inside).2)
  · rw [units_of_eq_mul (counted_of_le bounded) atLimit]
    rw [atLimit, nearLimit] at above
    exact Nat.mul_lt_mul_of_pos_right (Nat.lt_of_mul_lt_mul_right above) Binary64.one_pos

theorem units_lt_iff {microseconds : Nat} (bounded : microseconds ≤ nearLimit) (seconds : Nat) :
    units microseconds < seconds * one ↔ microseconds < seconds * microsecondsPerSecond := by
  rcases Nat.lt_trichotomy microseconds (seconds * microsecondsPerSecond) with
    below | same | above
  · simp only [below, units_lt_mul bounded below]
  · rw [units_of_eq_mul (counted_of_le bounded) same, same]
    simp only [Nat.lt_irrefl]
  · simp only [Nat.lt_asymm above, Nat.lt_asymm (mul_lt_units bounded above)]

theorem lt_units_iff {microseconds : Nat} (bounded : microseconds ≤ nearLimit) (seconds : Nat) :
    seconds * one < units microseconds ↔ seconds * microsecondsPerSecond < microseconds := by
  rcases Nat.lt_trichotomy microseconds (seconds * microsecondsPerSecond) with
    below | same | above
  · simp only [Nat.lt_asymm below, Nat.lt_asymm (units_lt_mul bounded below)]
  · rw [units_of_eq_mul (counted_of_le bounded) same, same]
    simp only [Nat.lt_irrefl]
  · simp only [above, mul_lt_units bounded above]

theorem units_div_one {microseconds : Nat} (bounded : microseconds ≤ nearLimit) :
    units microseconds / one = microseconds / microsecondsPerSecond := by
  have atLeast : ∀ seconds, seconds ≤ units microseconds / one ↔
      seconds ≤ microseconds / microsecondsPerSecond := by
    intro seconds
    rw [Nat.le_div_iff_mul_le Binary64.one_pos, Nat.le_div_iff_mul_le microsecondsPerSecond_pos,
      ← Nat.not_lt, ← Nat.not_lt, units_lt_iff bounded]
  exact Nat.le_antisymm ((atLeast _).mp (Nat.le_refl _)) ((atLeast _).mpr (Nat.le_refl _))

theorem secondsOf_eq {microseconds : Int} (counted : IsCounted microseconds) :
    secondsOf microseconds =
      .finite (decide (microseconds < 0)) (units microseconds.natAbs) := by
  have inFormat : units microseconds.natAbs < unitsLimit :=
    Nat.lt_of_le_of_lt (units_le_mul counted (Nat.le_of_lt counted))
      (mul_one_lt_unitsLimit (by decide))
  unfold secondsOf ofRatio ofQuotient ofUnits
  exact if_pos inFormat

end Seconds

open Seconds

/-! ### Counted instants and durations -/

section Counted

variable {microseconds seconds : Int} (counted : IsCounted microseconds)

include counted

theorem mul_le_signedUnits (atLeast : seconds * microsecondsPerSecond ≤ microseconds) :
    seconds * one ≤ signedUnits (decide (microseconds < 0)) (units microseconds.natAbs) := by
  unfold IsCounted at counted
  unfold signedUnits
  by_cases negative : microseconds < 0
  · obtain ⟨whole, rfl⟩ : ∃ whole : Nat, seconds = -whole :=
      ⟨(-seconds).toNat, by unfold microsecondsPerSecond at atLeast; omega⟩
    rw [Int.neg_mul] at atLeast ⊢
    have bounded : units microseconds.natAbs ≤ whole * one := units_le_mul counted (by omega)
    simp only [negative, decide_true, if_true]
    exact Int.neg_le_neg (by exact_mod_cast bounded)
  · simp only [negative, decide_false, Bool.false_eq_true, if_false]
    by_cases isPositive : 0 < seconds
    · obtain ⟨whole, rfl⟩ := Int.eq_ofNat_of_zero_le (Int.le_of_lt isPositive)
      have bounded : whole * one ≤ units microseconds.natAbs := mul_le_units counted (by omega)
      exact_mod_cast bounded
    · exact Int.le_trans (Int.mul_nonpos_of_nonpos_of_nonneg (by omega) (Int.natCast_nonneg one))
        (Int.natCast_nonneg _)

theorem signedUnits_le_mul (atMost : microseconds ≤ seconds * microsecondsPerSecond) :
    signedUnits (decide (microseconds < 0)) (units microseconds.natAbs) ≤ seconds * one := by
  unfold IsCounted at counted
  unfold signedUnits
  by_cases negative : microseconds < 0
  · simp only [negative, decide_true, if_true]
    by_cases isNegative : seconds < 0
    · obtain ⟨whole, rfl⟩ : ∃ whole : Nat, seconds = -whole := ⟨(-seconds).toNat, by omega⟩
      rw [Int.neg_mul] at atMost ⊢
      have bounded : whole * one ≤ units microseconds.natAbs := mul_le_units counted (by omega)
      exact Int.neg_le_neg (by exact_mod_cast bounded)
    · exact Int.le_trans (Int.neg_nonpos_of_nonneg (Int.natCast_nonneg _))
        (Int.mul_nonneg (by omega) (Int.natCast_nonneg one))
  · obtain ⟨whole, rfl⟩ : ∃ whole : Nat, seconds = whole :=
      ⟨seconds.toNat, by unfold microsecondsPerSecond at atMost; omega⟩
    simp only [negative, decide_false, Bool.false_eq_true, if_false]
    have bounded : units microseconds.natAbs ≤ whole * one := units_le_mul counted (by omega)
    exact_mod_cast bounded

/-- A claim is not after an instant that its second begins with or before. -/
theorem not_isAfter_of_le (begun : seconds * microsecondsPerSecond ≤ microseconds) :
    Claims.isAfter (secondsOf microseconds) seconds = false := by
  rw [secondsOf_eq counted]
  apply decide_eq_false
  exact Int.not_lt.mpr (mul_le_signedUnits counted begun)

/-- A claim is after an instant that a whole second lies between. -/
theorem isAfter_of_le {later : Int} (atMost : microseconds ≤ seconds * microsecondsPerSecond)
    (isLater : seconds < later) : Claims.isAfter (secondsOf microseconds) later = true := by
  rw [secondsOf_eq counted]
  apply decide_eq_true
  exact Int.lt_of_le_of_lt (signedUnits_le_mul counted atMost)
    (Int.mul_lt_mul_of_pos_right isLater (Int.natCast_pos.mpr Binary64.one_pos))

/-- Taking whole seconds gains one at most. -/
theorem natAbs_wholeSecondsOf_le :
    (wholeSecondsOf microseconds).natAbs ≤ microseconds.natAbs / microsecondsPerSecond + 1 := by
  have below : microseconds.natAbs ≤
      (microseconds.natAbs / microsecondsPerSecond + 1) * microsecondsPerSecond := by
    unfold microsecondsPerSecond
    omega
  have magnitude : units microseconds.natAbs / one ≤
      microseconds.natAbs / microsecondsPerSecond + 1 := by
    apply Nat.div_le_of_le_mul
    rw [Nat.mul_comm]
    exact units_le_mul counted below
  unfold wholeSecondsOf
  rw [secondsOf_eq counted]
  simp only [truncate?, Option.getD_some, signedUnits]
  split
  · rwa [Int.natAbs_neg, Int.natAbs_natCast]
  · rwa [Int.natAbs_natCast]

/-- No whole second that has passed is lost. -/
theorem le_wholeSecondsOf (atLeast : seconds * microsecondsPerSecond ≤ microseconds) :
    seconds ≤ wholeSecondsOf microseconds := by
  have signed := mul_le_signedUnits counted atLeast
  have ahead : (0 : Int) < one := Int.natCast_pos.mpr Binary64.one_pos
  unfold signedUnits at signed
  unfold wholeSecondsOf
  rw [secondsOf_eq counted]
  simp only [truncate?, Option.getD_some, signedUnits, Int.natCast_ediv]
  split at signed
  · next negative =>
      rw [if_pos negative]
      have magnitude : (units microseconds.natAbs : Int) ≤ -seconds * one := by
        rw [Int.neg_mul]
        omega
      exact Int.le_neg_of_le_neg (Int.ediv_le_of_le_mul ahead magnitude)
  · next nonnegative =>
      rw [if_neg nonnegative]
      exact (Int.le_ediv_iff_mul_le ahead).mpr signed

omit counted in
/-- Whole seconds are exact. -/
theorem wholeSecondsOf_mul (counted : IsCounted (seconds * microsecondsPerSecond)) :
    wholeSecondsOf (seconds * microsecondsPerSecond) = seconds := by
  have magnitude : (seconds * microsecondsPerSecond).natAbs =
      seconds.natAbs * microsecondsPerSecond := by
    rw [Int.natAbs_mul, Int.natAbs_natCast]
  unfold wholeSecondsOf
  rw [secondsOf_eq counted]
  simp only [truncate?, Option.getD_some, signedUnits, units_of_eq_mul counted magnitude,
    Nat.mul_div_cancel _ Binary64.one_pos, decide_eq_true_eq]
  unfold microsecondsPerSecond
  omega

end Counted

/-! ### Near instants and durations -/

theorem signedUnits_lt_of_nonneg {count : Nat} (bounded : count ≤ nearLimit) (seconds : Int) :
    (units count : Int) < seconds * one ↔ (count : Int) < seconds * microsecondsPerSecond := by
  obtain ⟨whole, rfl | rfl⟩ := Int.eq_nat_or_neg seconds
  · exact_mod_cast units_lt_iff bounded whole
  · rw [Int.neg_mul, Int.neg_mul]
    have left : (0 : Int) ≤ (whole : Int) * one :=
      Int.mul_nonneg (Int.natCast_nonneg _) (Int.natCast_nonneg _)
    have right : (0 : Int) ≤ (whole : Int) * microsecondsPerSecond :=
      Int.mul_nonneg (Int.natCast_nonneg _) (Int.natCast_nonneg _)
    constructor <;> intro <;> omega

theorem signedUnits_lt_of_neg {count : Nat} (bounded : count ≤ nearLimit) (positive : 0 < count)
    (seconds : Int) :
    -(units count : Int) < seconds * one ↔ -(count : Int) < seconds * microsecondsPerSecond := by
  obtain ⟨whole, rfl | rfl⟩ := Int.eq_nat_or_neg seconds
  · have someUnits : 0 < units count := by
      have above := lt_units_iff bounded 0
      rw [Nat.zero_mul, Nat.zero_mul] at above
      exact above.mpr positive
    have left : (0 : Int) ≤ (whole : Int) * one :=
      Int.mul_nonneg (Int.natCast_nonneg _) (Int.natCast_nonneg _)
    have right : (0 : Int) ≤ (whole : Int) * microsecondsPerSecond :=
      Int.mul_nonneg (Int.natCast_nonneg _) (Int.natCast_nonneg _)
    constructor <;> intro <;> omega
  · rw [Int.neg_mul, Int.neg_mul, Int.neg_lt_neg_iff, Int.neg_lt_neg_iff]
    exact_mod_cast lt_units_iff bounded whole

/-- A claim is after a near instant just when its second begins after it. -/
theorem isAfter_secondsOf {now : Int} (near : IsNear now) (seconds : Int) :
    Claims.isAfter (secondsOf now) seconds = decide (now < seconds * microsecondsPerSecond) := by
  rw [secondsOf_eq near.isCounted]
  apply decide_eq_decide.mpr
  by_cases negative : now < 0
  · have value : now = -(now.natAbs : Int) := by omega
    have before := signedUnits_lt_of_neg near (by omega) seconds
    rw [← value] at before
    simpa only [negative, decide_true, signedUnits, if_true] using before
  · have value : (now.natAbs : Int) = now := by omega
    have before := signedUnits_lt_of_nonneg near seconds
    rw [value] at before
    simpa only [negative, decide_false, signedUnits, Bool.false_eq_true, if_false] using before

/-- The whole seconds of a near duration are exact. -/
theorem wholeSecondsOf_near {microseconds : Int} (near : IsNear microseconds) :
    wholeSecondsOf microseconds = microseconds.tdiv microsecondsPerSecond := by
  unfold wholeSecondsOf
  rw [secondsOf_eq near.isCounted]
  simp only [truncate?, Option.getD_some, units_div_one near]
  cases microseconds with
  | ofNat count => rfl
  | negSucc count =>
      have negative : Int.negSucc count < 0 := Int.negSucc_lt_zero count
      simp only [negative, decide_true, signedUnits, if_true]
      rfl

/-- The whole seconds of a near duration that is no shorter than one are kept in a store. -/
theorem Duration.storeSeconds_near {left : Int} (near : IsNear left)
    (atLeast : microsecondsPerSecond ≤ left) :
    storeSeconds left = left / microsecondsPerSecond := by
  have nonnegative : 0 ≤ left := by
    unfold microsecondsPerSecond at atLeast
    omega
  have oneSecond : 1 ≤ left / (microsecondsPerSecond : Int) := by
    unfold microsecondsPerSecond at *
    omega
  unfold storeSeconds
  rw [wholeSecondsOf_near near, Int.tdiv_eq_ediv_of_nonneg nonnegative]
  exact Int.max_eq_right oneSecond

/-! ### Near instants -/

namespace IsNear

theorem between {first now last : Int} (begins : IsNear first) (ends : IsNear last)
    (after : first ≤ now) (before : now ≤ last) : IsNear now := by
  unfold IsNear at *
  omega

theorem isInRange {instant : Int} (near : IsNear instant) : Instant.isInRange instant = true := by
  unfold IsNear nearLimit microsecondsPerSecond at near
  unfold Instant.isInRange Instant.least Instant.greatest
  rw [Bool.and_eq_true, decide_eq_true_eq, decide_eq_true_eq]
  omega

end IsNear

namespace Instant

theorem floorToSecond_eq (instant : Int) :
    floorToSecond instant = instant / microsecondsPerSecond * microsecondsPerSecond := by
  unfold floorToSecond
  rw [Int.fdiv_eq_ediv_of_nonneg _ (by decide)]

theorem floorToSecond_le (instant : Int) : floorToSecond instant ≤ instant := by
  rw [floorToSecond_eq]
  unfold microsecondsPerSecond
  omega

theorem lt_floorToSecond_add (instant : Int) :
    instant < floorToSecond instant + microsecondsPerSecond := by
  rw [floorToSecond_eq]
  unfold microsecondsPerSecond
  omega

/-- The first date begins with a second. -/
theorem isInRange_floorToSecond {instant : Int} (inCalendar : isInRange instant = true) :
    isInRange (floorToSecond instant) = true := by
  unfold isInRange at inCalendar ⊢
  rw [Bool.and_eq_true, decide_eq_true_eq, decide_eq_true_eq] at inCalendar ⊢
  rw [floorToSecond_eq]
  unfold least greatest microsecondsPerSecond at *
  omega

theorem floorToSecond_near {instant : Int} (near : IsNear instant) :
    IsNear (floorToSecond instant) := by
  rw [floorToSecond_eq]
  unfold IsNear nearLimit microsecondsPerSecond at *
  omega

/-- The second with which an instant begins is told exactly. -/
theorem wholeSecondsOf_floorToSecond {instant : Int}
    (inCalendar : isInRange (floorToSecond instant) = true) :
    wholeSecondsOf (floorToSecond instant) = instant / microsecondsPerSecond := by
  have counted := isCounted_of_isInRange inCalendar
  rw [floorToSecond_eq] at counted ⊢
  exact wholeSecondsOf_mul counted

end Instant

end TokenAuthority
