import Mathlib.Algebra.Order.Ring.Nat
import Mathlib.Tactic.Ring
import TokenAuthority.Number.DecimalReader
import TokenAuthority.Number.Shortest
import TokenAuthority.Proofs.Number.Binary64

/-!
Decimals that stand for a binary64 number.

Rounding depends on a quotient alone, not on its two numbers, so that the zeros at the end of a
decimal make no difference.  The shortest decimal of a magnitude is found by trying which ones
round to it, and is the exact one where none of them does; so it rounds to that magnitude in any
case.  A decimal that rounds to a magnitude of the format is read as the number of that magnitude:
the powers of ten that are decided beforehand lie beyond the format.
-/

namespace TokenAuthority.Binary64

/-- Whether a number is a finite one of the format, which has no bits below the last one kept. -/
def IsFinite : Binary64 → Prop
  | .finite _ units => units < unitsLimit ∧ lastBit units ∣ units
  | .infinite _ => False
  | .notANumber _ => False

/-! ### Quotients -/

theorem roundUnits_eq_zero {numerator denominator : Nat} (small : 2 * numerator < denominator) :
    roundUnits numerator denominator = 0 := by
  have quotient : numerator / denominator = 0 := Nat.div_eq_of_lt (by omega)
  have rounded : roundHalfEven numerator denominator = 0 := by
    unfold roundHalfEven
    simp only [quotient, Nat.mod_eq_of_lt (show numerator < denominator by omega), if_pos small]
  rw [roundUnits_eq, quotient]
  show roundHalfEven numerator (denominator * 1) * 1 = 0
  rw [Nat.mul_one, Nat.mul_one, rounded]

/-! ### Powers of ten -/

theorem unitsOfDecimal_of_nonneg (value exponent : Nat) :
    unitsOfDecimal value exponent = roundUnits (value * 10 ^ exponent * one) 1 := by
  unfold unitsOfDecimal scaleByTen
  rw [if_pos (Int.natCast_nonneg exponent), Int.toNat_natCast, Nat.pow_eq]

theorem unitsOfDecimal_of_neg (value : Nat) {exponent : Nat} (positive : 0 < exponent) :
    unitsOfDecimal value (-(exponent : Int)) = roundUnits (value * one) (10 ^ exponent) := by
  unfold unitsOfDecimal scaleByTen
  rw [if_neg (by omega), Int.neg_neg, Int.toNat_natCast, Nat.pow_eq]

theorem tenPow_pos (exponent : Nat) : 0 < 10 ^ exponent :=
  Nat.pow_pos (by decide)

/-- Zeros at the end of a decimal count as a power of ten. -/
theorem unitsOfDecimal_mul_pow (value zeros : Nat) (exponent : Int) :
    unitsOfDecimal (value * 10 ^ zeros) exponent = unitsOfDecimal value (exponent + zeros) := by
  rcases Int.lt_or_le exponent 0 with negative | nonnegative
  · obtain ⟨places, rfl⟩ : ∃ places : Nat, exponent = -(places : Int) :=
      ⟨(-exponent).toNat, by omega⟩
    rw [unitsOfDecimal_of_neg _ (by omega)]
    rcases Nat.lt_or_ge zeros places with fewer | more
    · obtain ⟨left, rfl⟩ := Nat.exists_eq_add_of_lt fewer
      have sum : -((zeros + left + 1 : Nat) : Int) + zeros = -((left + 1 : Nat) : Int) := by omega
      rw [sum, unitsOfDecimal_of_neg _ (Nat.succ_pos left)]
      apply roundUnits_congr (tenPow_pos _) (tenPow_pos _)
      rw [Nat.succ_eq_add_one]
      ring
    · obtain ⟨left, rfl⟩ := Nat.exists_eq_add_of_le more
      have sum : -(places : Int) + (places + left : Nat) = (left : Int) := by omega
      rw [sum, unitsOfDecimal_of_nonneg]
      apply roundUnits_congr (tenPow_pos _) Nat.one_pos
      ring
  · obtain ⟨power, rfl⟩ := Int.eq_ofNat_of_zero_le nonnegative
    have sum : (power : Int) + zeros = ((power + zeros : Nat) : Int) := by omega
    rw [sum, unitsOfDecimal_of_nonneg, unitsOfDecimal_of_nonneg]
    congr 2
    ring

theorem unitsOfDecimal_zero (exponent : Int) : unitsOfDecimal 0 exponent = 0 := by
  rcases Int.lt_or_le exponent 0 with negative | nonnegative
  · obtain ⟨places, rfl⟩ : ∃ places : Nat, exponent = -(places : Int) :=
      ⟨(-exponent).toNat, by omega⟩
    rw [unitsOfDecimal_of_neg _ (by omega), Nat.zero_mul, roundUnits_zero]
  · obtain ⟨power, rfl⟩ := Int.eq_ofNat_of_zero_le nonnegative
    rw [unitsOfDecimal_of_nonneg, Nat.zero_mul, Nat.zero_mul, roundUnits_zero]

/-- A decimal whose last digit stands beyond the format is out of range. -/
theorem unitsLimit_le_unitsOfDecimal {value : Nat} {exponent : Int} (positive : 0 < value)
    (beyond : 310 < exponent) : unitsLimit ≤ unitsOfDecimal value exponent := by
  obtain ⟨power, rfl⟩ := Int.eq_ofNat_of_zero_le (show 0 ≤ exponent by omega)
  rw [unitsOfDecimal_of_nonneg]
  have bits : unitsLimit = 2 ^ (1024 + 1074) := rfl
  have kept : roundUnits (unitsLimit * 1) 1 = unitsLimit := by
    apply roundUnits_mul Nat.one_pos
    rw [bits]
    exact lastBit_dvd (Nat.pow_lt_pow_right (by decide) (by decide))
  calc unitsLimit
      = roundUnits (unitsLimit * 1) 1 := kept.symm
    _ ≤ roundUnits (value * 10 ^ power * one) 1 := by
        apply roundUnits_mono Nat.one_pos
        calc unitsLimit * 1
            ≤ 10 ^ 310 * one := by decide +kernel
          _ ≤ value * 10 ^ power * one := by
              apply Nat.mul_le_mul_right
              exact Nat.le_trans (Nat.pow_le_pow_right (by decide) (by omega))
                (Nat.le_mul_of_pos_left _ positive)

/-- A decimal whose first digit stands beyond the format is zero. -/
theorem unitsOfDecimal_eq_zero {value count : Nat} {exponent : Int} (small : value < 10 ^ count)
    (beyond : count + exponent < -330) : unitsOfDecimal value exponent = 0 := by
  obtain ⟨left, rfl⟩ : ∃ left : Nat, exponent = -((count + 330 + left : Nat) : Int) :=
    ⟨(-exponent - count - 330).toNat, by omega⟩
  rw [unitsOfDecimal_of_neg _ (by omega)]
  apply roundUnits_eq_zero
  calc 2 * (value * one)
      = value * (2 * one) := by ring
    _ ≤ value * 10 ^ 330 := Nat.mul_le_mul_left _ (by decide +kernel)
    _ < 10 ^ count * 10 ^ 330 := Nat.mul_lt_mul_of_pos_right small (tenPow_pos _)
    _ ≤ 10 ^ count * 10 ^ 330 * 10 ^ left := Nat.le_mul_of_pos_right _ (tenPow_pos _)
    _ = 10 ^ (count + 330 + left) := by ring

/-- A decimal that rounds to a magnitude of the format is read as its number. -/
theorem ofDecimal_of_unitsOfDecimal {value count units : Nat} {exponent : Int}
    (small : value < 10 ^ count) (rounded : unitsOfDecimal value exponent = units)
    (positive : 0 < units) (inRange : units < unitsLimit) (negative : Bool) :
    ofDecimal negative value count exponent = .finite negative units := by
  have notZero : value ≠ 0 := by
    rintro rfl
    rw [unitsOfDecimal_zero] at rounded
    omega
  have notAbove : ¬310 < exponent := by
    intro beyond
    have limit := unitsLimit_le_unitsOfDecimal (Nat.pos_of_ne_zero notZero) beyond
    omega
  have notBelow : ¬(count : Int) + exponent < -330 := by
    intro beyond
    rw [unitsOfDecimal_eq_zero small beyond] at rounded
    omega
  have asUnits : ofUnits negative (unitsOfDecimal value exponent) = .finite negative units := by
    rw [rounded]
    exact if_pos inRange
  unfold ofDecimal
  rw [if_neg notZero, if_neg notAbove, if_neg notBelow, ← asUnits]
  unfold ofQuotient unitsOfDecimal scaleByTen
  split <;> rfl

/-! ### The shortest decimal -/

/-- A magnitude in units of a power of two is a decimal with as many places. -/
theorem unitsOfDecimal_exact {units places : Nat} {exponent : Int} (kept : lastBit units ∣ units)
    (isOne : one = Nat.pow 2 places) (positive : 0 < places) (isPlaces : exponent = -places) :
    unitsOfDecimal (units * Nat.pow 5 places) exponent = units := by
  have tens : Nat.pow 5 places * one = 10 ^ places := by
    rw [isOne, Nat.pow_eq, Nat.pow_eq, ← Nat.mul_pow]
  rw [isPlaces, unitsOfDecimal_of_neg _ positive, Nat.mul_assoc, tens,
    roundUnits_mul (tenPow_pos _) kept]

/-- The shortest decimal of a magnitude rounds to it. -/
theorem unitsOfDecimal_shortestScaled {units : Nat} (kept : lastBit units ∣ units) :
    unitsOfDecimal (shortestScaled units).1 (shortestScaled units).2 = units := by
  have exact : unitsOfDecimal (units * Nat.pow 5 1074) (-1074) = units :=
    unitsOfDecimal_exact kept rfl (by decide) rfl
  unfold shortestScaled
  extract_lets point hit
  generalize Nat.pow 5 1074 = power at exact ⊢
  cases isHit : hit with
  | none => exact exact
  | some decimal =>
      obtain ⟨index, -, found⟩ := List.exists_of_findSome?_eq_some isHit
      obtain ⟨candidate, isCandidate, rfl⟩ := Option.map_eq_some_iff.mp found
      have rounds := List.find?_some isCandidate
      simp only [beq_iff_eq] at rounds
      exact rounds

end TokenAuthority.Binary64
