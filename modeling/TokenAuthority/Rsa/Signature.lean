import TokenAuthority.Digest.Sha256
import TokenAuthority.Number.Modular
import TokenAuthority.Rsa.Basic

/-!
Signatures by RSASSA-PKCS1-v1_5 with SHA-256.

The digest of a message is wrapped in a fixed header and padded to the length of the modulus; that
encoding, as a number, is raised to the private exponent.  Verification recomputes the encoding and
compares it with the signature raised to the public exponent, so that there is one signature of a
message only.
-/

namespace TokenAuthority.Rsa

/-- What precedes a SHA-256 digest inside an encoding: its length and the name of the algorithm. -/
def digestHeader : Octets :=
  [0x30, 0x31, 0x30, 0x0d, 0x06, 0x09, 0x60, 0x86, 0x48, 0x01, 0x65, 0x03, 0x04, 0x02, 0x01, 0x05,
   0x00, 0x04, 0x20]

/-- The fewest octets that hold an encoding: the digest with its header and eleven octets of
padding. -/
def encodingLength : Nat := 62

/-- The padded digest of a message, in a given number of octets; there must be enough of them. -/
def encoding? (length : Nat) (message : Octets) : Option Octets :=
  if length < encodingLength then none
  else
    some (0x00 :: 0x01 :: List.replicate (length - 54) 0xff ++
      0x00 :: (digestHeader ++ Sha256.digest message))

def sign? (key : PrivateKey) (message : Octets) : Option Octets :=
  let length := octetLength key.modulus
  (encoding? length message).map fun encoding =>
    Octets.ofNat length (Modular.power (Octets.toNat encoding) key.privateExponent key.modulus)

def verify (key : PublicKey) (message signature : Octets) : Bool :=
  let length := octetLength key.modulus
  match encoding? length message with
  | none => false
  | some encoding =>
      key.isVerifying && signature.length == length &&
        decide (Octets.toNat signature < key.modulus) &&
        Modular.power (Octets.toNat signature) key.exponent key.modulus == Octets.toNat encoding

end TokenAuthority.Rsa
