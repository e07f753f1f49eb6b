import TokenAuthority.Number.Modular

/-!
A test of primality.

An odd number is one more than a power of two times an odd part.  Modulo a prime, the power of a
base to that part is one, or meets minus one while it is squared; a composite number passes this
for few bases only.
-/

namespace TokenAuthority.Prime

/-- The bases of the test; a composite number below 3 · 10^23 fails it for one of them. -/
def bases : List Nat := [2, 3, 5, 7, 11, 13, 17, 19, 23, 29, 31, 37]

/-- How often a number can be halved, and what is left; the bound is the number of its bits. -/
def halvings : (bound : Nat) → (value : Nat) → Nat × Nat
  | 0, value => (0, value)
  | bound + 1, value =>
      if value % 2 = 0 then
        let (count, odd) := halvings bound (value / 2)
        (count + 1, odd)
      else (0, value)

/-- Whether a residue becomes minus one before it has been squared a given number of times. -/
def meetsMinusOne (modulus : Nat) : (squarings : Nat) → (residue : Nat) → Bool
  | 0, _ => false
  | squarings + 1, residue =>
      residue == modulus - 1 || meetsMinusOne modulus squarings (residue * residue % modulus)

def passes (value base : Nat) : Bool :=
  let (count, odd) := halvings (value.log2 + 1) (value - 1)
  let residue := Modular.power base odd value
  residue == 1 || meetsMinusOne value count residue

def isProbable (value : Nat) : Bool :=
  if bases.contains value then true
  else 1 < value && bases.all fun base => value % base != 0 && passes value base

end TokenAuthority.Prime
