/-!
Powers modulo a number.
-/

namespace TokenAuthority.Modular

/-- Multiply a result by a power of a base modulo a modulus, one bit of the exponent at a time,
lowest bit first; the exponent has at most as many bits as the first number tells. -/
def powerLoop (modulus : Nat) : (bits : Nat) → (base exponent result : Nat) → Nat
  | 0, _, _, result => result
  | bits + 1, base, exponent, result =>
      let result := if exponent % 2 = 1 then result * base % modulus else result
      powerLoop modulus bits (base * base % modulus) (exponent / 2) result

def power (base exponent modulus : Nat) : Nat :=
  powerLoop modulus (exponent.log2 + 1) (base % modulus) exponent (1 % modulus)

end TokenAuthority.Modular
