import Mathlib.Data.Nat.ModEq
import TokenAuthority.Number.Modular

/-!
Squaring and multiplying computes powers.

Along the loop the result times the power that is still to be multiplied in stays the same, modulo
the modulus.
-/

namespace TokenAuthority.Modular

theorem powerLoop_modEq (modulus : Nat) {bits exponent : Nat} (fits : exponent < 2 ^ bits)
    (base result : Nat) :
    powerLoop modulus bits base exponent result ≡ result * base ^ exponent [MOD modulus] := by
  induction bits generalizing base exponent result with
  | zero =>
      have isZero : exponent = 0 := by simpa using fits
      rw [powerLoop, isZero, pow_zero, mul_one]
  | succ bits inductionHypothesis =>
      have halfFits : exponent / 2 < 2 ^ bits := by
        rw [pow_succ] at fits
        omega
      have squared : (base * base % modulus) ^ (exponent / 2) ≡ base ^ (2 * (exponent / 2))
          [MOD modulus] := by
        rw [pow_mul, pow_two]
        exact (Nat.mod_modEq _ _).pow _
      rw [powerLoop]
      refine (inductionHypothesis halfFits _ _).trans ?_
      by_cases odd : exponent % 2 = 1
      · rw [if_pos odd]
        have split : exponent = 1 + 2 * (exponent / 2) := by omega
        calc result * base % modulus * (base * base % modulus) ^ (exponent / 2)
            ≡ result * base * base ^ (2 * (exponent / 2)) [MOD modulus] :=
              (Nat.mod_modEq _ _).mul squared
          _ = result * base ^ exponent := by
              rw [mul_assoc, ← pow_succ', add_comm, ← split]
      · rw [if_neg odd]
        have even : 2 * (exponent / 2) = exponent := by omega
        rw [even] at squared
        exact squared.mul_left result

/-- The loop keeps a reduced result reduced. -/
theorem powerLoop_mod {modulus result : Nat} (reduced : result % modulus = result)
    (bits base exponent : Nat) :
    powerLoop modulus bits base exponent result % modulus =
      powerLoop modulus bits base exponent result := by
  induction bits generalizing base exponent result with
  | zero => rwa [powerLoop]
  | succ bits inductionHypothesis =>
      rw [powerLoop]
      apply inductionHypothesis
      split
      · exact Nat.mod_mod _ _
      · exact reduced

theorem power_eq (base exponent modulus : Nat) :
    power base exponent modulus = base ^ exponent % modulus := by
  have congruent : power base exponent modulus ≡ base ^ exponent [MOD modulus] := by
    unfold power
    refine (powerLoop_modEq modulus Nat.lt_log2_self _ _).trans ?_
    calc 1 % modulus * (base % modulus) ^ exponent
        ≡ 1 * base ^ exponent [MOD modulus] :=
          (Nat.mod_modEq _ _).mul ((Nat.mod_modEq _ _).pow _)
      _ = base ^ exponent := one_mul _
  have reduced : power base exponent modulus % modulus = power base exponent modulus :=
    powerLoop_mod (Nat.mod_mod _ _) _ _ _
  rw [← reduced]
  exact congruent

end TokenAuthority.Modular
