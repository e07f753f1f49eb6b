import Mathlib.Algebra.Order.Ring.Nat
import Mathlib.Data.List.Induction
import TokenAuthority.Octets.Basic

/-!
Octets write the naturals of their length.
-/

namespace TokenAuthority.Octets

@[simp]
theorem toNat_concat (octets : Octets) (last : UInt8) :
    toNat (octets ++ [last]) = toNat octets * 256 + last.toNat := by
  simp [toNat, List.foldl_append]

theorem toNat_lt (octets : Octets) : toNat octets < 256 ^ octets.length := by
  induction octets using List.reverseRecOn with
  | nil => exact Nat.one_pos
  | append_singleton octets last inductionHypothesis =>
      have lastFits := last.toNat_lt
      rw [toNat_concat, List.length_append, List.length_singleton, Nat.pow_succ]
      omega

/-- A leading zero adds nothing to what octets write. -/
theorem toNat_zero_cons (octets : Octets) : toNat (0 :: octets) = toNat octets := rfl

@[simp]
theorem length_ofNat (count value : Nat) : (ofNat count value).length = count := by
  induction count generalizing value with
  | zero => rfl
  | succ count inductionHypothesis =>
      rw [ofNat, List.length_append, inductionHypothesis, List.length_singleton]

theorem toNat_ofNat {count value : Nat} (fits : value < 256 ^ count) :
    toNat (ofNat count value) = value := by
  induction count generalizing value with
  | zero =>
      have isZero : value = 0 := by simpa using fits
      rw [isZero]
      rfl
  | succ count inductionHypothesis =>
      have restFits : value / 256 < 256 ^ count := by
        rw [Nat.pow_succ] at fits
        omega
      rw [ofNat, toNat_concat, inductionHypothesis restFits, UInt8.toNat_ofNat']
      omega

end TokenAuthority.Octets
