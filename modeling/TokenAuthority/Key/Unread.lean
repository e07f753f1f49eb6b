import TokenAuthority.Key.Line
import TokenAuthority.Key.Loading

/-!
Keys that are handed over as text, to be read when they are used.

A text may hold either half of an RSA key.  A private key is looked for first; a public key is
looked for where there is none.
-/

namespace TokenAuthority.Key

inductive Half where
  | signing (key : Rsa.PrivateKey)
  | verifying (key : Rsa.PublicKey)
deriving DecidableEq, Repr

inductive UnreadError where
  | unusable
  | unsupported
deriving DecidableEq, Repr

def publicHalf (octets : Octets) : Except UnreadError Half :=
  match loadPublic octets with
  | .ok key => .ok (.verifying key)
  | .error _ => .error .unusable

/-- What a reader has found, or the public half where it could read nothing. -/
def orPublicHalf (octets : Octets) : Except LoadError Half → Except UnreadError Half
  | .ok half => .ok half
  | .error .unreadable => publicHalf octets
  | .error .unsupported => .error .unsupported
  | .error .locked | .error .notRsa => .error .unusable

def half (octets : Octets) : Except UnreadError Half :=
  orPublicHalf octets
    (if Line.isRsaLine octets then (Line.load octets).map .verifying
      else (loadPrivate octets).map .signing)

end TokenAuthority.Key
