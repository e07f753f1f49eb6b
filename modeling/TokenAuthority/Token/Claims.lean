import TokenAuthority.Json.Integer
import TokenAuthority.Time.Duration
import TokenAuthority.Token.Compact
import TokenAuthority.Token.Fault

/-!
The claims that every kind of token shares.

A token says when it was issued and when it expires, in seconds since 1970; it may say from when
on it is valid.  A number in a claim may be written in several ways and counts by its integer
part.  A token that is meant for an audience is refused, since none is known here.
-/

namespace TokenAuthority.Claims

def isAfter (now : Binary64) (seconds : Int) : Bool :=
  match now with
  | .finite negative units => Binary64.signedUnits negative units < seconds * Binary64.one
  | .infinite negative => negative
  | .notANumber _ => false

def isPresent (claims : List (Text × Json)) (name : String) : Bool :=
  match Json.lookup? name claims with
  | none => false
  | some .null => false
  | some _ => true

def refuseUnless (holds : Bool) : Except VerificationFault Unit :=
  if holds then .ok () else .error .refused

/-- Check the integer of a claim, if the token makes that claim.  A value that is no integer is
refused, an infinite number among them; a kind of value that never is one ends the check by
itself. -/
def checkInteger (claims : List (Text × Json)) (name : String) (test : Int → Bool) :
    Except VerificationFault Unit :=
  match Json.lookup? name claims with
  | none => .ok ()
  | some value =>
      match value.toInteger with
      | .ok seconds => refuseUnless (test seconds)
      | .error .wrongKind => .error .wrongKind
      | .error .badValue => .error .refused
      | .error .outOfRange => .error .refused

def namesNoAudience (claims : List (Text × Json)) : Bool :=
  match Json.lookup? "aud" claims with
  | none => true
  | some value => value.isUnset

/-- Check that claims are made as required and hold now. -/
def check (required : List String) (now : Int) (claims : List (Text × Json)) :
    Except VerificationFault Unit := do
  let time := secondsOf now
  refuseUnless (required.all (isPresent claims))
  checkInteger claims "iat" fun seconds => !isAfter time seconds
  checkInteger claims "nbf" fun seconds => !isAfter time seconds
  checkInteger claims "exp" (isAfter time)
  refuseUnless (namesNoAudience claims)
  refuseUnless (Compact.isTextIfPresent "sub" claims)
  refuseUnless (Compact.isTextIfPresent "jti" claims)

/-- The claims of a token whose signature is right, if they hold now. -/
def trusted (key : Compact.VerificationKey) (required : List String) (now : Int) (token : Text) :
    Except VerificationFault (List (Text × Json)) :=
  match Compact.open? key token with
  | none => .error .refused
  | some claims => do
      check required now claims
      return claims

def demand (claims : List (Text × Json)) (name : String) : Except VerificationFault Json :=
  match Json.lookup? name claims with
  | some value => .ok value
  | none => .error (.absentClaim name)

/-- When a token is issued and when it expires. -/
structure Lifespan where
  issuedAt : Int
  expiresAt : Int
deriving DecidableEq, Repr

/-- The lifespan of a token that is issued now: it begins with the current second. -/
def Lifespan.starting? (now lifetime : Int) : Option Lifespan :=
  let issuedAt := Instant.floorToSecond now
  if Instant.isInRange now then (Instant.after? issuedAt lifetime).map (⟨issuedAt, ·⟩) else none

def Lifespan.claims (lifespan : Lifespan) : List (Text × Json) :=
  [("iat", .int (wholeSecondsOf lifespan.issuedAt)),
    ("exp", .int (wholeSecondsOf lifespan.expiresAt))]

end TokenAuthority.Claims
