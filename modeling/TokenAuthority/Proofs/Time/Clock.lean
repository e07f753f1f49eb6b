import TokenAuthority.Proofs.Number.Binary64
import TokenAuthority.Time.Clock

/-!
Readings of the ticking clock in floating point.

A reading lies so near to its millisecond that the rounding of a sum of a reading and some seconds
never carries it across another millisecond.  So a deadline that is such a sum is reached at the
millisecond that it stands for, except that the sum may be rounded up: then the clock, which stands
at that very millisecond, is still read as earlier.
-/

namespace TokenAuthority.Clock

open Binary64

theorem natAbs_reading_le (clock : Clock) : clock.reading.natAbs ≤ 9223372036854 := by
  unfold reading tickLimit
  omega

theorem reading_mono {earlier later : Clock} (ordered : earlier.ticks ≤ later.ticks) :
    earlier.reading ≤ later.reading := by
  unfold reading
  omega

/-- A clock that has ticked on is not read as earlier. -/
theorem atMost_seconds {earlier later : Clock} (ordered : earlier.ticks ≤ later.ticks) :
    earlier.seconds.atMost later.seconds = true :=
  ofRatio_mono (by decide) (reading_mono ordered)

theorem atMost_seconds_self (clock : Clock) : clock.seconds.atMost clock.seconds = true :=
  atMost_seconds (Int.le_refl clock.ticks)

theorem precedes_seconds {earlier later : Clock} (ordered : earlier.ticks ≤ later.ticks) :
    earlier.seconds.Precedes later.seconds :=
  .of_atMost (atMost_seconds ordered)

/-- The clock is not read as having advanced by more than it did. -/
theorem reading_advance_lt (clock : Clock) {milliseconds span : Int} (positive : 0 < span)
    (within : milliseconds < span) :
    (clock.advance milliseconds).reading < clock.reading + span := by
  unfold reading advance
  simp only
  omega

/-- The number of a reading, which is less than a thousandth of a millisecond away from it. -/
structure Reads (clock : Clock) (negative : Bool) (units : Nat) : Prop where
  seconds : clock.seconds = .finite negative units
  bounded : units ≤ 2 ^ 34 * one
  notAbove : 1000 * (1000 * signedUnits negative units) ≤ 1000 * (clock.reading * one) + one
  notBelow : 1000 * (clock.reading * one) ≤ 1000 * (1000 * signedUnits negative units) + one

theorem exists_reads (clock : Clock) : ∃ negative units, clock.Reads negative units := by
  have limited := clock.natAbs_reading_le
  have quotient : (clock.reading * one).natAbs / 1000 < 2 ^ (1055 + 53) := by
    rw [Int.natAbs_mul, Int.natAbs_natCast]
    calc clock.reading.natAbs * one / 1000
        ≤ 9223372036854 * one / 1000 := Nat.div_le_div_right (Nat.mul_le_mul_right one limited)
      _ < 2 ^ (1055 + 53) := by decide +kernel
  have last := lastBit_le quotient
  have near := signedUnits_roundUnits_near (show 0 < 1000 by decide) (clock.reading * one)
  have slack : 500 * (1000 * 2 ^ 1055) ≤ one := by decide +kernel
  have bounded : roundUnits (clock.reading * one).natAbs 1000 ≤ 2 ^ 34 * one := by
    have magnitude := (roundUnits_near (show 0 < 1000 by decide)
      (clock.reading * one).natAbs).1
    have scaled : clock.reading.natAbs * one ≤ 9223372036854 * one :=
      Nat.mul_le_mul_right one limited
    rw [← Int.natAbs_natCast one, ← Int.natAbs_mul, Int.natAbs_natCast] at scaled
    omega
  refine ⟨decide (clock.reading * one < 0), _, ?_, bounded, ?_, ?_⟩
  · unfold Clock.seconds
    rw [ofRatio_eq, ofUnits,
      if_pos (Nat.lt_of_le_of_lt bounded (mul_one_lt_unitsLimit (by decide)))]
  · omega
  · omega

/-- The sum of a reading and some seconds, before it is rounded. -/
theorem Reads.add_finite {clock : Clock} {negative : Bool} {units step : Nat}
    (reads : clock.Reads negative units) (positive : 0 < step) :
    clock.seconds.add (.finite false step) = ofSignedUnits (signedUnits negative units + step) := by
  have notZeros : ¬(units = 0 ∧ step = 0) := fun zeros => absurd zeros.2 positive.ne'
  rw [reads.seconds]
  unfold add
  simp only [if_neg notZeros]
  rfl

/-- A deadline is not reached before its millisecond. -/
theorem atMost_add_of_lt {issued later : Clock} {seconds : Nat} (positive : 0 < seconds)
    (before : later.reading < issued.reading + seconds * 1000) :
    (issued.seconds.add (.ofInt seconds)).atMost later.seconds = false := by
  obtain ⟨negative, units, reads⟩ := issued.exists_reads
  obtain ⟨laterNegative, laterUnits, laterReads⟩ := later.exists_reads
  have limited := issued.natAbs_reading_le
  have laterLimited := later.natAbs_reading_le
  have onePos := Binary64.one_pos
  have atLeast : min seconds (2 ^ 52) * one ≤ roundUnits (seconds * one) 1 := by
    rw [← roundUnits_mul_one (Nat.min_le_right seconds (2 ^ 52))]
    exact roundUnits_mono Nat.one_pos (Nat.mul_le_mul_right one (Nat.min_le_left _ _))
  have ahead : (later.reading + 1) * one ≤
      (issued.reading + (min seconds (2 ^ 52) : Nat) * 1000) * one :=
    Int.mul_le_mul_of_nonneg_right (by omega) (Int.natCast_nonneg one)
  have expanded : (issued.reading + (min seconds (2 ^ 52) : Nat) * 1000) * one =
      issued.reading * one + 1000 * ((min seconds (2 ^ 52) * one : Nat) : Int) := by
    push_cast
    ring
  have stepPos : 0 < min seconds (2 ^ 52) * one := Nat.mul_pos (by omega) onePos
  rw [expanded, Int.add_mul, Int.one_mul] at ahead
  rw [ofInt_eq, laterReads.seconds]
  generalize roundUnits (seconds * one) 1 = step at atLeast ⊢
  generalize min seconds (2 ^ 52) * one = least at atLeast ahead stepPos
  unfold ofUnits
  split
  · rw [reads.add_finite (Nat.lt_of_lt_of_le stepPos atLeast)]
    obtain ⟨gap, isGap⟩ : ∃ gap : Nat, signedUnits negative units + step =
        signedUnits laterNegative laterUnits + gap := by
      refine ⟨(signedUnits negative units + step - signedUnits laterNegative laterUnits).toNat, ?_⟩
      have := reads.notBelow
      have := laterReads.notAbove
      omega
    rw [isGap]
    apply atMost_ofSignedUnits
    · have := reads.notBelow
      have := laterReads.notAbove
      have := laterReads.bounded
      omega
    · exact Nat.lt_of_le_of_lt laterReads.bounded (mul_one_lt_unitsLimit (by decide))
  · rw [reads.seconds]
    rfl

/-- It is reached after its millisecond. -/
theorem atMost_add_of_gt {issued later : Clock} {seconds : Nat} (positive : 0 < seconds)
    (after : issued.reading + seconds * 1000 < later.reading) :
    (issued.seconds.add (.ofInt seconds)).atMost later.seconds = true := by
  obtain ⟨negative, units, reads⟩ := issued.exists_reads
  have limited := issued.natAbs_reading_le
  have laterLimited := later.natAbs_reading_le
  have onePos := Binary64.one_pos
  have passed : (issued.reading + seconds * 1000 + 1) * one ≤ later.reading * one :=
    Int.mul_le_mul_of_nonneg_right after (Int.natCast_nonneg one)
  have expanded : (issued.reading + seconds * 1000 + 1) * one =
      issued.reading * one + 1000 * ((seconds * one : Nat) : Int) + one := by
    push_cast
    ring
  have notAbove := reads.notAbove
  rw [ofInt_of_le (by omega), reads.add_finite (Nat.mul_pos positive onePos)]
  apply ofSignedUnits_atMost_ofRatio (by decide)
  omega

end TokenAuthority.Clock
