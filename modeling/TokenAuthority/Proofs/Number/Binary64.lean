import Mathlib.Algebra.Order.Ring.Nat
import Mathlib.Tactic.Ring
import Mathlib.Tactic.Zify
import TokenAuthority.Number.Binary64

/-!
How far rounding goes.

Rounding to the nearest natural moves a quotient by half at most, so rounding a magnitude to 53
significant bits moves it by half of the last bit that is kept.  A magnitude whose low bits are zero
is not moved at all.  So a step that is added is lost in rounding only when it is tiny beside the
number to which it is added.  Rounding never turns the order of two quotients.
-/

namespace TokenAuthority.Binary64

/-- A quotient and its rounded natural differ by half at most. -/
theorem roundHalfEven_near {denominator : Nat} (positive : 0 < denominator) (numerator : Nat) :
    2 * (roundHalfEven numerator denominator * denominator) ≤ 2 * numerator + denominator ∧
      2 * numerator ≤ 2 * (roundHalfEven numerator denominator * denominator) + denominator := by
  have divided := Nat.div_add_mod numerator denominator
  have below := Nat.mod_lt numerator positive
  rw [Nat.mul_comm] at divided
  have next : (numerator / denominator + 1) * denominator =
      numerator / denominator * denominator + denominator := Nat.succ_mul _ _
  unfold roundHalfEven
  simp only
  split
  · omega
  · split
    · rw [next]
      omega
    · split
      · omega
      · rw [next]
        omega

theorem roundHalfEven_mul {denominator : Nat} (positive : 0 < denominator) (value : Nat) :
    roundHalfEven (value * denominator) denominator = value := by
  unfold roundHalfEven
  simp only [Nat.mul_mod_left, Nat.mul_zero, if_pos positive]
  exact Nat.mul_div_cancel value positive

theorem le_roundHalfEven {denominator numerator value : Nat} (positive : 0 < denominator)
    (atLeast : value * denominator ≤ numerator) : value ≤ roundHalfEven numerator denominator := by
  have quotient : value ≤ numerator / denominator :=
    (Nat.le_div_iff_mul_le positive).mpr atLeast
  unfold roundHalfEven
  simp only
  split
  · exact quotient
  · split
    · exact Nat.le_succ_of_le quotient
    · split
      · exact quotient
      · exact Nat.le_succ_of_le quotient

theorem roundHalfEven_le {denominator numerator value : Nat} (positive : 0 < denominator)
    (atMost : numerator ≤ value * denominator) : roundHalfEven numerator denominator ≤ value := by
  rcases Nat.lt_or_eq_of_le atMost with below | same
  · have quotient : numerator / denominator < value := Nat.div_lt_of_lt_mul (by rwa [Nat.mul_comm])
    unfold roundHalfEven
    simp only
    split
    · exact Nat.le_of_lt quotient
    · split
      · exact quotient
      · split
        · exact Nat.le_of_lt quotient
        · exact quotient
  · rw [same, roundHalfEven_mul positive]

/-- The value of the last bit that a magnitude keeps. -/
def lastBit (units : Nat) : Nat :=
  2 ^ droppedBits units

theorem lastBit_pos (units : Nat) : 0 < lastBit units :=
  Nat.pow_pos (by decide)

theorem roundUnits_eq (numerator denominator : Nat) :
    roundUnits numerator denominator =
      roundHalfEven numerator (denominator * lastBit (numerator / denominator)) *
        lastBit (numerator / denominator) :=
  rfl

/-- A magnitude and its rounding differ by half of the last bit that is kept. -/
theorem roundUnits_near {denominator : Nat} (positive : 0 < denominator) (numerator : Nat) :
    2 * (roundUnits numerator denominator * denominator) ≤
        2 * numerator + denominator * lastBit (numerator / denominator) ∧
      2 * numerator ≤ 2 * (roundUnits numerator denominator * denominator) +
        denominator * lastBit (numerator / denominator) := by
  have scaled := roundHalfEven_near
    (Nat.mul_pos positive (lastBit_pos (numerator / denominator))) numerator
  have regroup : roundUnits numerator denominator * denominator =
      roundHalfEven numerator (denominator * lastBit (numerator / denominator)) *
        (denominator * lastBit (numerator / denominator)) := by
    rw [roundUnits_eq]
    ring
  rw [regroup]
  exact scaled

theorem signedUnits_roundUnits_near {denominator : Nat} (positive : 0 < denominator)
    (numerator : Int) :
    2 * (signedUnits (decide (numerator < 0)) (roundUnits numerator.natAbs denominator) *
        denominator) ≤ 2 * numerator + denominator * lastBit (numerator.natAbs / denominator) ∧
      2 * numerator ≤
        2 * (signedUnits (decide (numerator < 0)) (roundUnits numerator.natAbs denominator) *
          denominator) + denominator * lastBit (numerator.natAbs / denominator) := by
  have near := roundUnits_near positive numerator.natAbs
  zify at near
  unfold signedUnits
  by_cases negative : numerator < 0
  · rw [decide_eq_true negative, if_pos rfl, Int.neg_mul]
    rw [abs_of_neg negative] at near
    omega
  · rw [decide_eq_false negative, if_neg Bool.false_ne_true]
    rw [abs_of_nonneg (Int.not_lt.mp negative)] at near
    omega

/-- Rounding does not carry a quotient across a magnitude that the last bit divides. -/
theorem le_roundUnits {denominator numerator units : Nat} (positive : 0 < denominator)
    (divides : lastBit (numerator / denominator) ∣ units)
    (atLeast : units * denominator ≤ numerator) : units ≤ roundUnits numerator denominator := by
  obtain ⟨count, rfl⟩ := divides
  have counted : count * (denominator * lastBit (numerator / denominator)) ≤ numerator := by
    convert atLeast using 1
    ring
  rw [roundUnits_eq, Nat.mul_comm]
  apply Nat.mul_le_mul_right
  exact le_roundHalfEven (Nat.mul_pos positive (lastBit_pos _)) counted

theorem roundUnits_le {denominator numerator units : Nat} (positive : 0 < denominator)
    (divides : lastBit (numerator / denominator) ∣ units)
    (atMost : numerator ≤ units * denominator) : roundUnits numerator denominator ≤ units := by
  obtain ⟨count, rfl⟩ := divides
  have counted : numerator ≤ count * (denominator * lastBit (numerator / denominator)) := by
    convert atMost using 1
    ring
  rw [roundUnits_eq, Nat.mul_comm (lastBit _)]
  apply Nat.mul_le_mul_right
  exact roundHalfEven_le (Nat.mul_pos positive (lastBit_pos _)) counted

/-- A magnitude that the last bit divides is kept as it is. -/
theorem roundUnits_mul {denominator units : Nat} (positive : 0 < denominator)
    (divides : lastBit units ∣ units) : roundUnits (units * denominator) denominator = units := by
  have quotient : units * denominator / denominator = units := Nat.mul_div_cancel units positive
  apply Nat.le_antisymm
  · exact roundUnits_le positive (by rwa [quotient]) (Nat.le_refl _)
  · exact le_roundUnits positive (by rwa [quotient]) (Nat.le_refl _)

theorem droppedBits_le {units bits : Nat} (bounded : units < 2 ^ (bits + 53)) :
    droppedBits units ≤ bits := by
  unfold droppedBits
  rcases Nat.eq_zero_or_pos units with rfl | positive
  · simp
  · have log := (Nat.log2_lt (Nat.ne_of_gt positive)).mpr bounded
    omega

theorem lastBit_dvd {units bits : Nat} (bounded : units < 2 ^ (bits + 53)) :
    lastBit units ∣ 2 ^ bits :=
  Nat.pow_dvd_pow 2 (droppedBits_le bounded)

/-- Magnitudes of 53 bits before the point keep every whole number. -/
theorem lastBit_dvd_one {units : Nat} (bounded : units < 2 ^ (1074 + 53)) : lastBit units ∣ one :=
  Nat.dvd_trans (lastBit_dvd bounded) (by decide +kernel)

/-- The last bit of a magnitude is no greater than its size tells. -/
theorem lastBit_le {units bits : Nat} (bounded : units < 2 ^ (bits + 53)) :
    lastBit units ≤ 2 ^ bits :=
  Nat.pow_le_pow_right (by decide) (droppedBits_le bounded)

theorem one_pos : 0 < one := by
  decide +kernel

/-- Whole numbers of 64 bits are far from the end of the format. -/
theorem mul_one_lt_unitsLimit {count : Nat} (bounded : count < 2 ^ 64) :
    count * one < unitsLimit :=
  Nat.lt_of_lt_of_le (Nat.mul_lt_mul_of_pos_right bounded one_pos) (by decide +kernel)

/-! ### Quotients -/

theorem roundHalfEven_mul_right (numerator denominator : Nat) {factor : Nat}
    (positive : 0 < factor) :
    roundHalfEven (numerator * factor) (denominator * factor) =
      roundHalfEven numerator denominator := by
  unfold roundHalfEven
  simp only [Nat.mul_div_mul_right _ _ positive, Nat.mul_mod_mul_right, ← Nat.mul_assoc,
    Nat.mul_lt_mul_right positive]

theorem roundUnits_mul_right (numerator denominator : Nat) {factor : Nat}
    (positive : 0 < factor) :
    roundUnits (numerator * factor) (denominator * factor) = roundUnits numerator denominator := by
  rw [roundUnits_eq, roundUnits_eq, Nat.mul_div_mul_right _ _ positive, Nat.mul_right_comm,
    roundHalfEven_mul_right _ _ positive]

/-- Equal quotients are rounded alike. -/
theorem roundUnits_congr {left leftDivisor right rightDivisor : Nat} (leftPos : 0 < leftDivisor)
    (rightPos : 0 < rightDivisor) (same : left * rightDivisor = right * leftDivisor) :
    roundUnits left leftDivisor = roundUnits right rightDivisor := by
  calc roundUnits left leftDivisor
      = roundUnits (left * rightDivisor) (leftDivisor * rightDivisor) :=
        (roundUnits_mul_right _ _ rightPos).symm
    _ = roundUnits (right * leftDivisor) (rightDivisor * leftDivisor) := by
        rw [same, Nat.mul_comm leftDivisor]
    _ = roundUnits right rightDivisor := roundUnits_mul_right _ _ leftPos

theorem roundUnits_zero (denominator : Nat) : roundUnits 0 denominator = 0 := by
  have rounded : roundHalfEven 0 (denominator * lastBit (0 / denominator)) = 0 := by
    unfold roundHalfEven
    simp
  rw [roundUnits_eq, rounded, Nat.zero_mul]

/-! ### Steps beside a magnitude -/

/-- The last bit of a magnitude is less than twice a step that is not tiny beside it. -/
theorem lastBit_lt {units step : Nat} (wide : units < 2 ^ 53 * step) :
    lastBit units < 2 * step := by
  have positive : 0 < step := Nat.pos_of_mul_pos_left (Nat.zero_lt_of_lt wide)
  by_cases small : units < 2 ^ (0 + 53)
  · have least := lastBit_le small
    omega
  · have nonzero : units ≠ 0 := by
      rintro rfl
      exact small (by decide)
    have log : 52 ≤ units.log2 := by
      have := (Nat.le_log2 nonzero).mpr (Nat.not_lt.mp small)
      omega
    have scaled : lastBit units * 2 ^ 52 ≤ units := by
      calc lastBit units * 2 ^ 52
          = 2 ^ units.log2 := by
            unfold lastBit droppedBits
            rw [← Nat.pow_add, Nat.sub_add_cancel log]
        _ ≤ units := Nat.log2_self_le nonzero
    omega

/-- A step that is not tiny beside a magnitude moves it upwards. -/
theorem lt_roundUnits_add {units step : Nat} (wide : units + step < 2 ^ 53 * step) :
    units < roundUnits (units + step) 1 := by
  have near := (roundUnits_near Nat.one_pos (units + step)).2
  have last := lastBit_lt wide
  rw [Nat.div_one] at near
  omega

theorem roundUnits_sub_lt {units step : Nat} (fits : step ≤ units)
    (wide : units < 2 ^ 53 * step) : roundUnits (units - step) 1 < units := by
  have near := (roundUnits_near Nat.one_pos (units - step)).1
  have last := lastBit_lt (Nat.lt_of_le_of_lt (Nat.sub_le units step) wide)
  rw [Nat.div_one] at near
  omega

/-- The number of a negative or positive magnitude is above a finite number if its value is. -/
theorem atMost_ofUnits {negative other : Bool} {units bound : Nat}
    (above : signedUnits other bound < signedUnits negative units)
    (inRange : negative = true → units < unitsLimit) :
    (ofUnits negative units).atMost (.finite other bound) = false := by
  unfold ofUnits
  split
  · exact decide_eq_false (Int.not_le.mpr above)
  · next beyond =>
      cases negative with
      | true => exact absurd (inRange rfl) beyond
      | false => rfl

/-- The sum of a number and a step that is not tiny beside it is above that number. -/
theorem atMost_ofSignedUnits {negative : Bool} {units step : Nat}
    (wide : units + step < 2 ^ 53 * step) (inRange : units < unitsLimit) :
    (ofSignedUnits (signedUnits negative units + step)).atMost (.finite negative units) =
      false := by
  unfold ofSignedUnits
  cases negative with
  | false =>
      have isSum : signedUnits false units + step = ((units + step : Nat) : Int) := rfl
      have notNegative : ¬((units + step : Nat) : Int) < 0 := by omega
      rw [isSum, decide_eq_false notNegative, Int.natAbs_natCast]
      apply atMost_ofUnits
      · exact Int.ofNat_lt.mpr (lt_roundUnits_add wide)
      · exact nofun
  | true =>
      have isSum : signedUnits true units + step = (step : Int) - units := by
        show -(units : Int) + step = step - units
        omega
      rw [isSum]
      by_cases fits : step < units
      · have isNegative : (step : Int) - units < 0 := by omega
        have magnitude : ((step : Int) - units).natAbs = units - step := by omega
        have downwards := roundUnits_sub_lt (Nat.le_of_lt fits) (by omega)
        rw [decide_eq_true isNegative, magnitude]
        apply atMost_ofUnits
        · show -(units : Int) < -(roundUnits (units - step) 1 : Nat)
          omega
        · exact fun _ => Nat.lt_trans downwards inRange
      · have notNegative : ¬(step : Int) - units < 0 := by omega
        rw [decide_eq_false notNegative]
        apply atMost_ofUnits
        · show -(units : Int) < (roundUnits ((step : Int) - units).natAbs 1 : Nat)
          rcases Nat.eq_zero_or_pos units with rfl | positive
          · have upwards := lt_roundUnits_add wide
            rw [Nat.zero_add] at upwards
            simpa using upwards
          · omega
        · exact nofun

/-- A number with a step added that is not tiny beside it is above that number. -/
theorem atMost_add_self {negative : Bool} {units step : Nat}
    (wide : units + step < 2 ^ 53 * step) (inRange : units < unitsLimit) :
    ((finite negative units).add (.finite false step)).atMost (.finite negative units) = false := by
  have positive : 0 < step := Nat.pos_of_mul_pos_left (Nat.zero_lt_of_lt wide)
  have notZeros : ¬(units = 0 ∧ step = 0) := fun zeros => absurd zeros.2 positive.ne'
  unfold add
  simp only [if_neg notZeros]
  exact atMost_ofSignedUnits wide inRange


/-! ### Order -/

theorem div_le_roundHalfEven (numerator denominator : Nat) :
    numerator / denominator ≤ roundHalfEven numerator denominator := by
  unfold roundHalfEven
  simp only
  split
  · exact Nat.le_refl _
  · split
    · exact Nat.le_succ _
    · split
      · exact Nat.le_refl _
      · exact Nat.le_succ _

theorem roundHalfEven_le_succ_div (numerator denominator : Nat) :
    roundHalfEven numerator denominator ≤ numerator / denominator + 1 := by
  unfold roundHalfEven
  simp only
  split
  · exact Nat.le_succ _
  · split
    · exact Nat.le_refl _
    · split
      · exact Nat.le_succ _
      · exact Nat.le_refl _

theorem roundHalfEven_mono {denominator lower upper : Nat} (ordered : lower ≤ upper) :
    roundHalfEven lower denominator ≤ roundHalfEven upper denominator := by
  rcases Nat.lt_or_eq_of_le (Nat.div_le_div_right (c := denominator) ordered) with below | same
  · calc roundHalfEven lower denominator
        ≤ lower / denominator + 1 := roundHalfEven_le_succ_div _ _
      _ ≤ upper / denominator := below
      _ ≤ roundHalfEven upper denominator := div_le_roundHalfEven _ _
  · have lowerParts := Nat.div_add_mod lower denominator
    have upperParts := Nat.div_add_mod upper denominator
    rw [same] at lowerParts
    unfold roundHalfEven
    simp only [same]
    split_ifs <;> omega

theorem droppedBits_mono {lower upper : Nat} (ordered : lower ≤ upper) :
    droppedBits lower ≤ droppedBits upper := by
  unfold droppedBits
  rcases Nat.eq_zero_or_pos lower with rfl | positive
  · simp
  · have log : lower.log2 ≤ upper.log2 :=
      (Nat.le_log2 (by omega)).mpr (Nat.le_trans (Nat.log2_self_le (by omega)) ordered)
    omega

/-- Where fewer bits are dropped there is a magnitude between that both roundings keep. -/
theorem exists_between {denominator lower upper : Nat} (positive : 0 < denominator)
    (fewer : droppedBits (lower / denominator) < droppedBits (upper / denominator)) :
    ∃ units, lower ≤ units * denominator ∧ units * denominator ≤ upper ∧
      lastBit (lower / denominator) ∣ units ∧ lastBit (upper / denominator) ∣ units := by
  have upperLog : (upper / denominator).log2 = droppedBits (upper / denominator) + 52 := by
    unfold droppedBits at fewer ⊢
    omega
  have upperPos : upper / denominator ≠ 0 := by
    intro isZero
    rw [isZero] at upperLog
    simp at upperLog
  have above : 2 ^ (upper / denominator).log2 ≤ upper / denominator :=
    Nat.log2_self_le upperPos
  have below : lower / denominator < 2 ^ (upper / denominator).log2 := by
    rcases Nat.eq_zero_or_pos (lower / denominator) with isZero | lowerPos
    · rw [isZero]
      exact Nat.pow_pos (by decide)
    · apply (Nat.log2_lt (Nat.ne_of_gt lowerPos)).mp
      unfold droppedBits at fewer
      omega
  refine ⟨2 ^ (upper / denominator).log2, ?_, ?_, ?_, ?_⟩
  · exact Nat.le_of_lt ((Nat.div_lt_iff_lt_mul positive).mp below)
  · exact (Nat.le_div_iff_mul_le positive).mp above
  · exact Nat.pow_dvd_pow 2 (by omega)
  · exact Nat.pow_dvd_pow 2 (by omega)

theorem roundUnits_mono {denominator lower upper : Nat} (positive : 0 < denominator)
    (ordered : lower ≤ upper) : roundUnits lower denominator ≤ roundUnits upper denominator := by
  have quotients : lower / denominator ≤ upper / denominator := Nat.div_le_div_right ordered
  rcases Nat.lt_trichotomy (droppedBits (lower / denominator)) (droppedBits (upper / denominator))
    with fewer | same | more
  · obtain ⟨units, above, below, keptLow, keptHigh⟩ := exists_between positive fewer
    exact Nat.le_trans (roundUnits_le positive keptLow above)
      (le_roundUnits positive keptHigh below)
  · have sameBit : lastBit (lower / denominator) = lastBit (upper / denominator) :=
      congrArg (2 ^ ·) same
    rw [roundUnits_eq, roundUnits_eq, sameBit]
    exact Nat.mul_le_mul_right _ (roundHalfEven_mono ordered)
  · exact absurd (droppedBits_mono quotients) (Nat.not_le.mpr more)

/-- Only positive infinity is above positive infinity. -/
theorem eq_of_infinite_atMost {number : Binary64}
    (above : (infinite false).atMost number = true) : number = infinite false := by
  cases number with
  | finite => cases above
  | infinite negative =>
      cases negative with
      | false => rfl
      | true => cases above
  | notANumber => cases above

theorem eq_of_atMost_infinite {number : Binary64}
    (below : number.atMost (infinite true) = true) : number = infinite true := by
  cases number with
  | finite => cases below
  | infinite negative =>
      cases negative with
      | false => cases below
      | true => rfl
  | notANumber => cases below

theorem atMost_trans {first second third : Binary64} (left : first.atMost second = true)
    (right : second.atMost third = true) : first.atMost third = true := by
  cases second with
  | infinite negative =>
      cases negative with
      | false => rwa [eq_of_infinite_atMost right]
      | true => rwa [eq_of_atMost_infinite left]
  | notANumber => cases first <;> cases left
  | finite negative units =>
      cases first with
      | notANumber => cases left
      | infinite firstNegative =>
          cases firstNegative with
          | false => cases left
          | true => cases third <;> first | rfl | cases right
      | finite firstNegative firstUnits =>
          cases third with
          | notANumber => cases right
          | infinite thirdNegative =>
              cases thirdNegative with
              | false => rfl
              | true => cases right
          | finite thirdNegative thirdUnits =>
              exact decide_eq_true (Int.le_trans (of_decide_eq_true left) (of_decide_eq_true right))

/-- Whether all that is at most one number is at most another. -/
def Precedes (earlier later : Binary64) : Prop :=
  ∀ number : Binary64, number.atMost earlier = true → number.atMost later = true

theorem Precedes.refl (number : Binary64) : Precedes number number :=
  fun _ below => below

theorem Precedes.of_atMost {earlier later : Binary64} (ordered : earlier.atMost later = true) :
    Precedes earlier later :=
  fun _ below => atMost_trans below ordered

theorem Precedes.atMost_eq_false {earlier later number : Binary64}
    (ordered : Precedes earlier later)
    (above : number.atMost later = false) : number.atMost earlier = false :=
  Bool.eq_false_iff.mpr fun below => by simp [ordered number below] at above

/-- Magnitudes keep their order when they are taken as numbers, and turn it when negated. -/
theorem ofUnits_mono {lower upper : Nat} (ordered : lower ≤ upper) :
    (ofUnits false lower).atMost (ofUnits false upper) = true ∧
      (ofUnits true upper).atMost (ofUnits true lower) = true := by
  unfold ofUnits
  by_cases inRange : upper < unitsLimit
  · rw [if_pos inRange, if_pos (Nat.lt_of_le_of_lt ordered inRange),
      if_pos inRange, if_pos (Nat.lt_of_le_of_lt ordered inRange)]
    exact ⟨decide_eq_true (Int.ofNat_le.mpr ordered),
      decide_eq_true (Int.neg_le_neg (Int.ofNat_le.mpr ordered))⟩
  · rw [if_neg inRange, if_neg inRange]
    split <;> exact ⟨rfl, rfl⟩

theorem ofUnits_true_atMost (below above : Nat) :
    (ofUnits true below).atMost (ofUnits false above) = true := by
  unfold ofUnits
  split
  · split
    · apply decide_eq_true
      show -(below : Int) ≤ (above : Int)
      omega
    · rfl
  · split <;> rfl

/-- Rounding keeps the order of quotients. -/
theorem ofUnits_roundUnits_mono {lower upper : Int} {denominator : Nat} (positive : 0 < denominator)
    (ordered : lower ≤ upper) :
    (ofUnits (decide (lower < 0)) (roundUnits lower.natAbs denominator)).atMost
      (ofUnits (decide (upper < 0)) (roundUnits upper.natAbs denominator)) = true := by
  have rounded : ∀ {least most : Nat}, least ≤ most →
      roundUnits least denominator ≤ roundUnits most denominator :=
    fun sizes => roundUnits_mono positive sizes
  by_cases upperNegative : upper < 0
  · have lowerNegative : lower < 0 := Int.lt_of_le_of_lt ordered upperNegative
    have sizes : upper.natAbs ≤ lower.natAbs := by omega
    rw [decide_eq_true upperNegative, decide_eq_true lowerNegative]
    exact (ofUnits_mono (rounded sizes)).2
  · rw [decide_eq_false upperNegative]
    by_cases lowerNegative : lower < 0
    · rw [decide_eq_true lowerNegative]
      exact ofUnits_true_atMost _ _
    · have sizes : lower.natAbs ≤ upper.natAbs := by omega
      rw [decide_eq_false lowerNegative]
      exact (ofUnits_mono (rounded sizes)).1

theorem ofRatio_eq (numerator : Int) (denominator : Nat) :
    ofRatio numerator denominator = ofUnits (decide (numerator * one < 0))
      (roundUnits (numerator * one).natAbs denominator) := by
  have sameSign : (numerator * one < 0) ↔ numerator < 0 :=
    ⟨fun below => Int.not_le.mp fun least =>
      absurd (Int.mul_nonneg least (Int.natCast_nonneg one)) (Int.not_le.mpr below),
    fun below => Int.mul_neg_of_neg_of_pos below (Int.natCast_pos.mpr one_pos)⟩
  unfold ofRatio ofQuotient
  rw [Int.natAbs_mul, Int.natAbs_natCast, decide_eq_decide.mpr sameSign]

theorem ofRatio_mono {lower upper : Int} {denominator : Nat} (positive : 0 < denominator)
    (ordered : lower ≤ upper) :
    (ofRatio lower denominator).atMost (ofRatio upper denominator) = true := by
  rw [ofRatio_eq, ofRatio_eq]
  exact ofUnits_roundUnits_mono positive
    (Int.mul_le_mul_of_nonneg_right ordered (Int.natCast_nonneg one))

/-- A sum that is at most a quotient is rounded to a number that is at most the quotient's. -/
theorem ofSignedUnits_atMost_ofRatio {units numerator : Int} {denominator : Nat}
    (positive : 0 < denominator) (ordered : units * denominator ≤ numerator * one) :
    (ofSignedUnits units).atMost (ofRatio numerator denominator) = true := by
  have sameSign : (units * denominator < 0) ↔ units < 0 :=
    ⟨fun below => Int.not_le.mp fun least =>
      absurd (Int.mul_nonneg least (Int.natCast_nonneg _)) (Int.not_le.mpr below),
    fun below => Int.mul_neg_of_neg_of_pos below (Int.natCast_pos.mpr positive)⟩
  have sameUnits : roundUnits units.natAbs 1 =
      roundUnits (units * denominator).natAbs denominator := by
    rw [Int.natAbs_mul, Int.natAbs_natCast]
    exact roundUnits_congr Nat.one_pos positive (by ring)
  unfold ofSignedUnits
  rw [ofRatio_eq, sameUnits, ← decide_eq_decide.mpr sameSign]
  exact ofUnits_roundUnits_mono positive ordered

/-! ### Whole numbers -/

/-- Whole numbers of 52 bits are numbers of the format. -/
theorem roundUnits_mul_one {count : Nat} (small : count ≤ 2 ^ 52) :
    roundUnits (count * one) 1 = count * one := by
  have bounded : count * one < 2 ^ (1074 + 53) := by
    calc count * one
        ≤ 2 ^ 52 * one := Nat.mul_le_mul_right one small
      _ < 2 ^ (1074 + 53) := by decide +kernel
  have exact := roundUnits_mul Nat.one_pos ((lastBit_dvd_one bounded).mul_left count)
  rwa [Nat.mul_one] at exact

theorem ofInt_eq (count : Nat) :
    ofInt count = ofUnits false (roundUnits (count * one) 1) := by
  unfold ofInt ofRatio ofQuotient
  rw [decide_eq_false (by omega), Int.natAbs_natCast]

theorem ofInt_of_le {count : Nat} (small : count ≤ 2 ^ 52) :
    ofInt count = finite false (count * one) := by
  rw [ofInt_eq, roundUnits_mul_one small, ofUnits,
    if_pos (mul_one_lt_unitsLimit (Nat.lt_of_le_of_lt small (by decide)))]

end TokenAuthority.Binary64
