/-!
RSA keys.

A key may be good for signing and yet be refused by verification: the modulus must be odd, and
what verification may cost is limited by the sizes of modulus and exponent.
-/

namespace TokenAuthority.Rsa

structure PublicKey where
  modulus : Nat
  exponent : Nat
deriving DecidableEq, Repr

structure PrivateKey where
  modulus : Nat
  publicExponent : Nat
  privateExponent : Nat
deriving DecidableEq, Repr

def PrivateKey.publicKey (key : PrivateKey) : PublicKey :=
  ⟨key.modulus, key.publicExponent⟩

/-- Whether the numbers of a public key are of the form that one has: the exponent is odd, at least
three and below the modulus. -/
def PublicKey.isWellFormed (key : PublicKey) : Bool :=
  3 ≤ key.exponent && key.exponent % 2 == 1 && key.exponent < key.modulus

def bitLength (value : Nat) : Nat :=
  if value = 0 then 0 else value.log2 + 1

def octetLength (modulus : Nat) : Nat :=
  if modulus = 0 then 0 else modulus.log2 / 8 + 1

/-- Whether signatures are verified by a key: a modulus beyond 3072 bits takes exponents of 64 bits
only, and none is longer than 16384 bits. -/
def PublicKey.isVerifying (key : PublicKey) : Bool :=
  let bits := bitLength key.modulus
  key.modulus % 2 == 1 && bits ≤ 16384 && (bits ≤ 3072 || bitLength key.exponent ≤ 64)

end TokenAuthority.Rsa
