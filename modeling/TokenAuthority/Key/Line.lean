import TokenAuthority.Key.Format
import TokenAuthority.Octets.Base64

/-!
Public keys in one line.

A line names its kind of key, and holds after blanks the key in base64: the name again, then the
numbers, each behind its length in four octets.  Lines of RSA keys are read.
-/

namespace TokenAuthority.Key.Line

def rsaName : Octets := Octets.ofAscii "ssh-rsa"

def certificateEnd : Octets := Octets.ofAscii "-cert-v01@openssh.com"

def isRsaLine (octets : Octets) : Bool :=
  rsaName.isPrefixOf octets

def isSpace (octet : UInt8) : Bool :=
  octet == 0x20 || (0x09 ≤ octet && octet ≤ 0x0d)

def words? (octets : Octets) : Option (Octets × Octets) :=
  let name := octets.takeWhile (! isSpace ·)
  let rest := octets.drop name.length
  let gap := rest.takeWhile fun octet => octet == 0x20 || octet == 0x09
  let body := (rest.drop gap.length).takeWhile (! isSpace ·)
  if name.isEmpty || gap.isEmpty || body.isEmpty then none else some (name, body)

def takeField? (octets : Octets) : Option (Octets × Octets) :=
  let length := Octets.toNat (octets.take 4)
  let rest := octets.drop 4
  if 4 ≤ octets.length ∧ length ≤ rest.length then some (rest.take length, rest.drop length)
  else none

def takeNatural? (octets : Octets) : Option (Nat × Octets) := do
  let (digits, rest) ← takeField? octets
  if digits.head?.any (0x80 ≤ ·) then none else return (Octets.toNat digits, rest)

def decode? (octets : Octets) : Option Octets :=
  if octets.length % 4 = 0 then
    Base64.decode? Base64.standard (octets.map fun octet => Char.ofNat octet.toNat)
  else none

def rsaKey? (octets : Octets) : Option Rsa.PublicKey := do
  let (name, rest) ← takeField? octets
  let (exponent, rest) ← takeNatural? rest
  let (modulus, rest) ← takeNatural? rest
  let key : Rsa.PublicKey := ⟨modulus, exponent⟩
  if name = rsaName ∧ rest.isEmpty ∧ key.isWellFormed then some key else none

def isCertificateName (name : Octets) : Bool :=
  certificateEnd.isSuffixOf name

def kindOf (name : Octets) : Octets :=
  if isCertificateName name then name.take (name.length - certificateEnd.length) else name

/-- Load the key of a line that begins as one of an RSA key; certificates are not read. -/
def load (octets : Octets) : Except LoadError Rsa.PublicKey := do
  let (name, body) ← readable (words? octets)
  if kindOf name ≠ rsaName then .error .unsupported
  else if name ≠ rsaName then .error .unreadable
  else readable ((decode? body).bind rsaKey?)

end TokenAuthority.Key.Line
