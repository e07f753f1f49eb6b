import TokenAuthority.Curve.Named
import TokenAuthority.Key.Der

/-!
Algorithms that keys are of.

A key in a neutral format names its algorithm by an object identifier, with parameters that the
algorithm requires or admits.  A name that is not known may have any one parameter.
-/

namespace TokenAuthority.Key

inductive CurveParameters where
  | named (identifier : Octets)
  /-- The curve is left to the context. -/
  | implied
  | spelledOut (parts : List Der.Value)
deriving DecidableEq, Repr

inductive Algorithm where
  | rsa
  | dsa
  | ellipticCurve (parameters : CurveParameters)
  | octetString (length : Nat)
  | keyAgreement
  | unknown
deriving DecidableEq, Repr

inductive AlgorithmName where
  | rsa
  /-- RSA for one scheme of signatures. -/
  | rsaPss
  | dsa
  | ellipticCurve
  | octetString (length : Nat)
  | keyAgreement
  /-- Key agreement in a group whose order is told. -/
  | keyAgreementGroup
deriving DecidableEq, Repr

def algorithmNames : List (Octets × AlgorithmName) :=
  [([0x2a, 0x86, 0x48, 0x86, 0xf7, 0x0d, 0x01, 0x01, 0x01], .rsa),
   ([0x2a, 0x86, 0x48, 0x86, 0xf7, 0x0d, 0x01, 0x01, 0x0a], .rsaPss),
   ([0x2a, 0x86, 0x48, 0xce, 0x38, 0x04, 0x01], .dsa),
   ([0x2a, 0x86, 0x48, 0xce, 0x3d, 0x02, 0x01], .ellipticCurve),
   ([0x2b, 0x65, 0x6e], .octetString 32),
   ([0x2b, 0x65, 0x6f], .octetString 56),
   ([0x2b, 0x65, 0x70], .octetString 32),
   ([0x2b, 0x65, 0x71], .octetString 57),
   ([0x2a, 0x86, 0x48, 0x86, 0xf7, 0x0d, 0x01, 0x03, 0x01], .keyAgreement),
   ([0x2a, 0x86, 0x48, 0xce, 0x3e, 0x02, 0x01], .keyAgreementGroup)]

def algorithmName? (identifier : Octets) : Option AlgorithmName :=
  (algorithmNames.find? fun entry => entry.1 == identifier).map Prod.snd

def isNamed (value : Der.Value) : Bool :=
  match value.items? with
  | some [identifier] => identifier.identifier?.isSome
  | some [identifier, _] => identifier.identifier?.isSome
  | _ => false

def arePlain (parameters : List Der.Value) : Bool :=
  parameters.isEmpty || parameters == [⟨Der.nullTag, []⟩]

def areNaturals (count : Nat → Bool) : List Der.Value → Bool
  | [group] => (group.items?.bind Der.naturals?).any fun numbers => count numbers.length
  | _ => false

/-- The digest that is meant where none is named, SHA-1. -/
def impliedDigest : Der.Value :=
  ⟨Der.sequenceTag, [0x06, 0x05, 0x2b, 0x0e, 0x03, 0x02, 0x1a, 0x05, 0x00]⟩

/-- The mask generation that is meant where none is named: its only kind, with the digest that is
meant. -/
def impliedMask : Der.Value :=
  ⟨Der.sequenceTag,
    [0x06, 0x09, 0x2a, 0x86, 0x48, 0x86, 0xf7, 0x0d, 0x01, 0x01, 0x08, 0x30, 0x09] ++
      impliedDigest.content⟩

def isAbsentOr (test : Der.Value → Bool) : Option Der.Value → Bool
  | none => true
  | some part => part.single?.any test

def isDigest (value : Der.Value) : Bool :=
  isNamed value && value != impliedDigest

def isMaskGeneration (value : Der.Value) : Bool :=
  match value.items? with
  | some [identifier, digest] =>
      identifier.identifier?.isSome && isNamed digest && value != impliedMask
  | _ => false

def isNaturalBut (implied bound : Nat) (value : Der.Value) : Bool :=
  value.natural?.any fun number => number != implied && number < bound

/-- Whether parameters, if there are any, name digest, mask, salt and trailer of signatures; what is
meant without being named must not be named. -/
def areSchemeParameters : List Der.Value → Bool
  | [] => true
  | [scheme] =>
      match scheme.items? with
      | none => false
      | some parts =>
          let (digest, parts) := Der.takeTagged (Der.placeTag 0) parts
          let (mask, parts) := Der.takeTagged (Der.placeTag 1) parts
          let (salt, parts) := Der.takeTagged (Der.placeTag 2) parts
          let (trailer, parts) := Der.takeTagged (Der.placeTag 3) parts
          parts.isEmpty && isAbsentOr isDigest digest && isAbsentOr isMaskGeneration mask &&
            isAbsentOr (isNaturalBut 20 0x1_0000) salt &&
            isAbsentOr (isNaturalBut 1 0x100) trailer
  | _ => false

/-- Whether parameters are the numbers of a group: prime, generator, order, and optionally a
cofactor and how the prime was found. -/
def areGroupParameters : List Der.Value → Bool
  | [group] =>
      match group.items? with
      | some (prime :: generator :: order :: rest) =>
          let (_, rest) := Der.takeTagged Der.integerTag rest
          (Der.naturals? [prime, generator, order]).isSome &&
            (rest.isEmpty || rest.map (·.tag) == [Der.sequenceTag])
      | _ => false
  | _ => false

def curveParameters? : List Der.Value → Option CurveParameters
  | [value] =>
      if value = ⟨Der.nullTag, []⟩ then some .implied
      else if value.tag = Der.sequenceTag then value.items?.map .spelledOut
      else value.identifier?.map .named
  | _ => none

def AlgorithmName.algorithm? (parameters : List Der.Value) : AlgorithmName → Option Algorithm
  | .rsa => if arePlain parameters then some .rsa else none
  | .rsaPss => if areSchemeParameters parameters then some .rsa else none
  | .dsa => if areNaturals (· == 3) parameters then some .dsa else none
  | .ellipticCurve => (curveParameters? parameters).map .ellipticCurve
  | .octetString length => if parameters.isEmpty then some (.octetString length) else none
  | .keyAgreement =>
      if areNaturals (fun count => count == 2 || count == 3) parameters then some .keyAgreement
      else none
  | .keyAgreementGroup => if areGroupParameters parameters then some .keyAgreement else none

def readAlgorithm? (value : Der.Value) : Option Algorithm := do
  match ← value.items? with
  | identifier :: parameters =>
      match algorithmName? (← identifier.identifier?) with
      | some name => name.algorithm? parameters
      | none => if parameters.length ≤ 1 then some .unknown else none
  | [] => none

/-- Whether values spell a curve out: version, prime field, coefficients with an optional seed, base
point, number of points, and a cofactor of one. -/
def spells (curve : Curve) (seed : Octets) (parts : List Der.Value) : Bool :=
  let coefficient := fun (value : Nat) =>
    (⟨Der.octetStringTag, Octets.ofNat curve.fieldLength value⟩ : Der.Value)
  let coefficients := [coefficient curve.linear, coefficient curve.constant]
  let primeField := [0x2a, 0x86, 0x48, 0xce, 0x3d, 0x01, 0x01]
  match parts with
  | [version, field, equation, base, order, cofactor] =>
      version.natural? == some 1 && order.natural? == some curve.order &&
        cofactor.natural? == some 1 && base == ⟨Der.octetStringTag, curve.baseOctets⟩ &&
        (match field.items? with
          | some [kind, prime] =>
              kind.identifier? == some primeField && prime.natural? == some curve.prime
          | _ => false) &&
        (equation.items? == some coefficients ||
          equation.items? == some (coefficients ++ [⟨Der.bitStringTag, 0 :: seed⟩]))
  | _ => false

def spelledOut? (parts : List Der.Value) : Option Curve :=
  (Curve.spelledOut.find? fun (curve, seed) => spells curve seed parts).map Prod.fst

end TokenAuthority.Key
