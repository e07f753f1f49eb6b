import TokenAuthority.Number.Prime
import TokenAuthority.Rsa.Basic

/-!
The numbers that a private RSA key is written by.

Besides modulus and exponents there are the two primes, the private exponent modulo each prime less
one, and the inverse of the second prime modulo the first.  A key counts only if they agree.
-/

namespace TokenAuthority.Rsa

structure Parts where
  modulus : Nat
  publicExponent : Nat
  privateExponent : Nat
  primeP : Nat
  primeQ : Nat
  exponentP : Nat
  exponentQ : Nat
  coefficient : Nat
deriving DecidableEq, Repr

namespace Parts

/-- Whether the public exponent is odd and does not leave every message as it is. -/
def exponentFits (parts : Parts) : Bool :=
  parts.publicExponent % 2 == 1 && parts.publicExponent != 1

def modulusFits (parts : Parts) : Bool :=
  parts.modulus == parts.primeP * parts.primeQ

def exponentsFit (parts : Parts) : Bool :=
  let order := Nat.lcm (parts.primeP - 1) (parts.primeQ - 1)
  parts.publicExponent * parts.privateExponent % order == 1

/-- Whether the numbers for each prime follow from the others. -/
def reductionsFit (parts : Parts) : Bool :=
  parts.exponentP == parts.privateExponent % (parts.primeP - 1) &&
    parts.exponentQ == parts.privateExponent % (parts.primeQ - 1) &&
    parts.coefficient < parts.primeP && parts.coefficient * parts.primeQ % parts.primeP == 1

def isFactor (value : Nat) : Bool :=
  value % 2 == 1 && Prime.isProbable value

def agree (parts : Parts) : Bool :=
  parts.exponentFits && parts.modulusFits && parts.exponentsFit && parts.reductionsFit &&
    isFactor parts.primeP && isFactor parts.primeQ

def key? (parts : Parts) : Option PrivateKey :=
  if parts.agree then
    some ⟨parts.modulus, parts.publicExponent, parts.privateExponent⟩
  else none

end Parts

end TokenAuthority.Rsa
