import TokenAuthority.Proofs.Store.Memory
import TokenAuthority.Proofs.Time.Clock

/-!
The milliseconds that an entry in memory has left.

The time left is the difference of two rounded numbers, scaled and rounded twice more.  For entries
of up to 2^40 seconds all this rounding takes it less than half a millisecond away, so that the
nearest whole number of milliseconds is the one that is left by the clock.
-/

namespace TokenAuthority

namespace Binary64

/-- A natural that differs from a multiple by less than a half is rounded to it. -/
theorem roundHalfEven_eq_of_near {denominator numerator value : Nat}
    (below : 2 * numerator < 2 * (value * denominator) + denominator)
    (above : 2 * (value * denominator) < 2 * numerator + denominator) :
    roundHalfEven numerator denominator = value := by
  have positive : 0 < denominator := by omega
  obtain ⟨notAbove, notBelow⟩ := roundHalfEven_near positive numerator
  rcases Nat.lt_trichotomy (roundHalfEven numerator denominator) value with less | same | more
  · have next := Nat.mul_le_mul_right denominator (Nat.succ_le_of_lt less)
    rw [Nat.succ_mul] at next
    omega
  · exact same
  · have next := Nat.mul_le_mul_right denominator (Nat.succ_le_of_lt more)
    rw [Nat.succ_mul] at next
    omega

/-- A count of units is rounded by less than the last bit that its size tells. -/
theorem roundUnits_near_of_lt {units bits : Nat} (bounded : units < 2 ^ (bits + 1 + 53)) :
    roundUnits units 1 ≤ units + 2 ^ bits ∧ units ≤ roundUnits units 1 + 2 ^ bits := by
  have last := lastBit_le bounded
  have near := roundUnits_near Nat.one_pos units
  rw [Nat.pow_succ] at last
  rw [Nat.div_one, Nat.mul_one, Nat.one_mul] at near
  omega

theorem unitsLimit_eq : unitsLimit = 2 ^ 2098 := by
  decide +kernel

theorem exists_ofSignedUnits_near {units : Int} {bits : Nat}
    (bounded : units.natAbs < 2 ^ (bits + 1 + 53)) (inFormat : bits + 1 + 53 < 2098) :
    ∃ negative magnitude, ofSignedUnits units = .finite negative magnitude ∧
      signedUnits negative magnitude ≤ units + (2 ^ bits : Nat) ∧
      units ≤ signedUnits negative magnitude + (2 ^ bits : Nat) := by
  have near := roundUnits_near_of_lt bounded
  have limited : roundUnits units.natAbs 1 < unitsLimit := by
    have wider : 2 ^ bits ≤ 2 ^ (bits + 1 + 53) := Nat.pow_le_pow_right (by decide) (by omega)
    have doubled : 2 ^ (bits + 1 + 53) * 2 ≤ 2 ^ 2098 := by
      rw [← Nat.pow_succ]
      exact Nat.pow_le_pow_right (by decide) inFormat
    rw [unitsLimit_eq]
    generalize 2 ^ 2098 = limit at doubled ⊢
    omega
  refine ⟨decide (units < 0), roundUnits units.natAbs 1, ?_, ?_⟩
  · unfold ofSignedUnits ofUnits
    rw [if_pos limited]
  · unfold signedUnits
    by_cases negative : units < 0
    · rw [decide_eq_true negative, if_pos rfl]
      omega
    · rw [decide_eq_false negative, if_neg Bool.false_ne_true]
      omega

theorem sub_of_lt {leftNegative rightNegative : Bool} {left right : Nat}
    (above : signedUnits rightNegative right < signedUnits leftNegative left) :
    (finite leftNegative left).sub (finite rightNegative right) =
      ofSignedUnits (signedUnits leftNegative left - signedUnits rightNegative right) := by
  have notZeros : ¬(left = 0 ∧ right = 0) := by
    rintro ⟨rfl, rfl⟩
    simp [signedUnits] at above
  have negated : signedUnits (!rightNegative) right = -signedUnits rightNegative right := by
    cases rightNegative <;> simp [signedUnits]
  unfold sub negate add
  simp only [if_neg notZeros, negated, Int.sub_eq_add_neg]

/-- A positive number of seconds is told in milliseconds, to the nearest one. -/
theorem nearest?_scale {units milliseconds : Nat}
    (inFormat : roundUnits (units * 1000) 1 < unitsLimit)
    (near : roundHalfEven (roundUnits (units * 1000) 1) one = milliseconds) :
    ((finite false units).scale 1000).nearest? = some (milliseconds : Int) := by
  have scaled : (finite false units).scale 1000 = finite false (roundUnits (units * 1000) 1) := by
    unfold scale
    simp only [ofUnits, if_pos inFormat]
  rw [scaled]
  exact congrArg (fun count : Nat => some (count : Int)) near

end Binary64

namespace MemoryStore

open Binary64

/-- The time left by the clock is what an entry of up to 2^40 seconds has left. -/
theorem millisecondsLeft_add {issued later : Clock} {seconds : Nat} (positive : 0 < seconds)
    (atMost : seconds ≤ 2 ^ 40)
    (before : later.reading < issued.reading + seconds * 1000) :
    millisecondsLeft later.seconds (issued.seconds.add (.ofInt seconds)) =
      issued.reading + seconds * 1000 - later.reading := by
  obtain ⟨negative, units, reads⟩ := issued.exists_reads
  obtain ⟨laterNegative, laterUnits, laterReads⟩ := later.exists_reads
  obtain ⟨half, isHalf⟩ : ∃ half, half = 2 ^ 1061 := ⟨_, rfl⟩
  have oneEq : one = 8192 * half := by
    rw [isHalf]
    decide +kernel
  have wide : 2 ^ 41 * one = 2 ^ (1061 + 1 + 53) := by decide +kernel
  have step : seconds * one ≤ 2 ^ 40 * one := Nat.mul_le_mul_right one atMost
  have sumBounded := reads.bounded
  have laterBounded := laterReads.bounded
  have sum : (signedUnits negative units + (seconds * one : Nat)).natAbs < 2 ^ (1061 + 1 + 53) := by
    rw [← wide]
    unfold signedUnits
    split <;> omega
  rw [ofInt_of_le (Nat.le_trans atMost (by decide)),
    reads.add_finite (Nat.mul_pos positive Binary64.one_pos)]
  obtain ⟨sumNegative, sumUnits, isSum, sumAbove, sumBelow⟩ :=
    exists_ofSignedUnits_near sum (by decide)
  rw [isSum, laterReads.seconds]
  rw [← isHalf] at sumAbove sumBelow
  obtain ⟨left, isLeft⟩ : ∃ left : Nat,
      issued.reading + seconds * 1000 - later.reading = (left : Int) + 1 :=
    ⟨(issued.reading + seconds * 1000 - later.reading - 1).toNat, by omega⟩
  have exact : issued.reading * one + 1000 * ((seconds * one : Nat) : Int) - later.reading * one =
      ((left + 1) * one : Nat) := by
    calc issued.reading * one + 1000 * ((seconds * one : Nat) : Int) - later.reading * one
        = (issued.reading + seconds * 1000 - later.reading) * one := by
          push_cast
          ring
      _ = ((left + 1) * one : Nat) := by
          rw [isLeft]
          push_cast
          rfl
  have notBelow := reads.notBelow
  have notAbove := reads.notAbove
  have laterNotBelow := laterReads.notBelow
  have laterNotAbove := laterReads.notAbove
  have atLeast : one ≤ (left + 1) * one := Nat.le_mul_of_pos_left _ (Nat.succ_pos left)
  have laterLimited : (signedUnits laterNegative laterUnits).natAbs ≤ 2 ^ 34 * one := by
    unfold signedUnits
    split <;> omega
  have limited : (signedUnits negative units).natAbs ≤ 2 ^ 34 * one := by
    unfold signedUnits
    split <;> omega
  have above : signedUnits laterNegative laterUnits < signedUnits sumNegative sumUnits := by
    omega
  have differenceBounded : (signedUnits sumNegative sumUnits -
      signedUnits laterNegative laterUnits).natAbs < 2 ^ (1061 + 1 + 53) := by
    rw [← wide]
    omega
  obtain ⟨negativeLeft, unitsLeft, isDifference, differenceAbove, differenceBelow⟩ :=
    exists_ofSignedUnits_near differenceBounded (by decide)
  rw [← isHalf] at differenceAbove differenceBelow
  have isPositive : negativeLeft = false := by
    cases negativeLeft with
    | false => rfl
    | true =>
        have negated : signedUnits true unitsLeft = -(unitsLeft : Int) := rfl
        rw [negated] at differenceBelow
        omega
  subst isPositive
  have unsigned : signedUnits false unitsLeft = unitsLeft := rfl
  rw [unsigned] at differenceAbove differenceBelow
  have wider : 2 ^ 51 * one = 2 ^ (1071 + 1 + 53) := by decide +kernel
  have halfScaled : 1024 * half = 2 ^ 1071 := by
    rw [isHalf]
    decide +kernel
  have scaledBounded : unitsLeft * 1000 < 2 ^ (1071 + 1 + 53) := by
    rw [← wider]
    omega
  obtain ⟨scaledAbove, scaledBelow⟩ := roundUnits_near_of_lt scaledBounded
  rw [← halfScaled] at scaledAbove scaledBelow
  have inFormat : roundUnits (unitsLeft * 1000) 1 < unitsLimit :=
    Nat.lt_of_le_of_lt (show _ ≤ 2 ^ 52 * one by omega) (mul_one_lt_unitsLimit (by decide))
  have rounded : roundHalfEven (roundUnits (unitsLeft * 1000) 1) one = left + 1 := by
    apply roundHalfEven_eq_of_near <;> omega
  rw [millisecondsLeft, sub_of_lt above, isDifference, nearest?_scale inFormat rounded, isLeft]
  rfl

end MemoryStore

end TokenAuthority
