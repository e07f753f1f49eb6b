import TokenAuthority.Key.Algorithm
import TokenAuthority.Rsa.Parts

/-!
Formats of keys in distinguished encoding.

The neutral formats name the algorithm beside the key, the others belong to one algorithm.  A key of
any known algorithm is read and checked; of those that are not RSA keys nothing is kept.
-/

namespace TokenAuthority.Key

/-- Why no RSA key is found. -/
inductive LoadError where
  | unreadable
  | locked
  | unsupported
  | notRsa
deriving DecidableEq, Repr

inductive AnyKey (RsaKey : Type) where
  | rsa (key : RsaKey)
  | other
deriving Repr

def AnyKey.rsaOnly {RsaKey : Type} : AnyKey RsaKey → Except LoadError RsaKey
  | .rsa key => .ok key
  | .other => .error .notRsa

def readable {α : Type} : Option α → Except LoadError α
  | some value => .ok value
  | none => .error .unreadable

def otherIf {RsaKey : Type} (recognised : Bool) : Except LoadError (AnyKey RsaKey) :=
  if recognised then .ok .other else .error .unreadable

def CurveParameters.curve? : CurveParameters → Option Curve
  | .named identifier => Curve.named? identifier
  | .implied => none
  | .spelledOut parts => spelledOut? parts

def curve (parameters : CurveParameters) : Except LoadError Curve :=
  match parameters.curve? with
  | some curve => .ok curve
  | none => .error .unsupported

def rsaPrivate? (octets : Octets) : Option Rsa.PrivateKey := do
  match ← Der.naturals? (← Der.readSequence? octets) with
  | [0, modulus, publicExponent, privateExponent, primeP, primeQ, exponentP, exponentQ,
      coefficient] =>
      let parts : Rsa.Parts :=
        { modulus, publicExponent, privateExponent, primeP, primeQ, exponentP, exponentQ,
          coefficient }
      parts.key?
  | _ => none

def rsaPublic? (octets : Octets) : Option Rsa.PublicKey := do
  match ← Der.naturals? (← Der.readSequence? octets) with
  | [modulus, exponent] =>
      let key : Rsa.PublicKey := ⟨modulus, exponent⟩
      if key.isWellFormed then some key else none
  | _ => none

structure CurvePrivate where
  secret : Octets
  parameters : Option CurveParameters
  publicPoint : Option Octets
deriving DecidableEq, Repr

def readCurvePrivate? (octets : Octets) : Option CurvePrivate := do
  match ← Der.readSequence? octets with
  | version :: secret :: rest =>
      let (parameters, rest) := Der.takeTagged (Der.placeTag 0) rest
      let (publicPoint, rest) := Der.takeTagged (Der.placeTag 1) rest
      if version.natural? = some 1 ∧ rest.isEmpty then
        return {
          secret := ← secret.contentOf? Der.octetStringTag
          parameters := ← parameters.mapM fun part => do curveParameters? [← part.single?]
          publicPoint := ← publicPoint.mapM fun part => do (← part.single?).bits? }
      else none
  | _ => none

/-- Whether the parts of a private key fit a curve: the multiplier has the length of the number of
points, and a public point that is given is its own. -/
def CurvePrivate.fits (key : CurvePrivate) (curve : Curve) : Bool :=
  key.secret.length == curve.scalarLength &&
    match curve.publicPoint? (Octets.toNat key.secret), key.publicPoint with
    | none, _ => false
    | some _, none => true
    | some point, some octets => curve.readPoint? octets == some point

/-- A private key on a curve.  The curve may be told from outside, within the key, or both alike. -/
def curvePrivate (outer : Option CurveParameters) (octets : Octets) :
    Except LoadError (AnyKey Rsa.PrivateKey) := do
  let key ← readable (readCurvePrivate? octets)
  let parameters ← readable (outer.or key.parameters)
  if key.parameters.all (· = parameters) then otherIf (key.fits (← curve parameters))
  else .error .unreadable

def dsaPrivate (octets : Octets) : Except LoadError (AnyKey Rsa.PrivateKey) :=
  match (Der.readSequence? octets).bind Der.naturals? with
  | some [0, _, _, _, _, _] => .ok .other
  | _ => .error .unreadable

def isOctetString (length : Nat) (octets : Octets) : Bool :=
  ((Der.readOne? octets).bind (Der.Value.contentOf? Der.octetStringTag)).any (·.length == length)

def isAttribute (value : Der.Value) : Bool :=
  match value.items? with
  | some [identifier, values] =>
      identifier.identifier?.isSome && (values.partsOf? Der.setTag).isSome
  | _ => false

def areAttributes : List Der.Value → Bool
  | [] => true
  | [attributes] => (attributes.partsOf? (Der.placeTag 0)).any (·.all isAttribute)
  | _ => false

/-- The algorithm and the key of the neutral format of private keys. -/
def readNeutralPrivate? (octets : Octets) : Option (Algorithm × Octets) := do
  match ← Der.readSequence? octets with
  | version :: algorithm :: key :: attributes =>
      if version.natural? = some 0 ∧ areAttributes attributes then
        return (← readAlgorithm? algorithm, ← key.contentOf? Der.octetStringTag)
      else none
  | _ => none

def neutralPrivate (octets : Octets) : Except LoadError (AnyKey Rsa.PrivateKey) := do
  let (algorithm, content) ← readable (readNeutralPrivate? octets)
  match algorithm with
  | .rsa => return .rsa (← readable (rsaPrivate? content))
  | .ellipticCurve parameters => curvePrivate (some parameters) content
  | .dsa | .keyAgreement => otherIf (Der.readNatural? content).isSome
  | .octetString length => otherIf (isOctetString length content)
  | .unknown => .error .unsupported

/-- Whether octets are a key in the encrypted format: the name of a cipher with its parameters, and
the octets that it yields. -/
def isEncrypted (octets : Octets) : Bool :=
  match Der.readSequence? octets with
  | some [cipher, content] => isNamed cipher && content.tag == Der.octetStringTag
  | _ => false

def readNeutralPublic? (octets : Octets) : Option (Algorithm × Octets) := do
  match ← Der.readSequence? octets with
  | [algorithm, key] => return (← readAlgorithm? algorithm, ← key.bits?)
  | _ => none

def neutralPublic (octets : Octets) : Except LoadError (AnyKey Rsa.PublicKey) := do
  let (algorithm, content) ← readable (readNeutralPublic? octets)
  match algorithm with
  | .rsa => return .rsa (← readable (rsaPublic? content))
  | .ellipticCurve parameters => otherIf ((← curve parameters).readPoint? content).isSome
  | .dsa | .keyAgreement => otherIf (Der.readNatural? content).isSome
  | .octetString length => otherIf (content.length == length)
  | .unknown => .error .unsupported

def isPublic (octets : Octets) : Bool :=
  (neutralPublic octets).toBool || (rsaPublic? octets).isSome

end TokenAuthority.Key
