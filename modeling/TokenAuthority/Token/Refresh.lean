import TokenAuthority.Failure
import TokenAuthority.Token.Claims
import TokenAuthority.Token.Id

/-!
Refresh tokens.

A refresh token names its user and carries an identifier of its own, under which it is registered.
Verification checks signature and claims, and hands back both in the form that keys the store.
-/

namespace TokenAuthority

structure RefreshToken where
  signed : String
  id : TokenId
  user : Text
  lifespan : Claims.Lifespan
deriving DecidableEq, Repr

structure RefreshClaims where
  user : Text
  token : TokenId
deriving DecidableEq, Repr

namespace RefreshToken

def requiredClaims : List String := ["uid", "jti", "iat", "exp"]

def payload (user : Text) (id : TokenId) (lifespan : Claims.Lifespan) : Json :=
  .object (("uid", .text user) :: ("jti", .text id.text) :: lifespan.claims)

def issue (user secret : Text) (id : TokenId) (lifetime now : Int) :
    Except Failure RefreshToken :=
  match Claims.Lifespan.starting? now lifetime with
  | none => .error .dateOutOfRange
  | some lifespan =>
      match Compact.sign? (.secret secret) (payload user id lifespan) with
      | some signed => .ok ⟨signed, id, user, lifespan⟩
      | none => .error (.service (.signingFailed .refresh))

/-- The time that a token has left, negative when it has expired. -/
def timeLeft (token : RefreshToken) (now : Int) : Int :=
  token.lifespan.expiresAt - now

/-- The user of a token, who must be able to key the store. -/
def userOf : Json → Except VerificationFault Text
  | .text user =>
      if StoreKey.isPart user then .ok user else .error .badValue
  | _ => .error .badValue

/-- The identifier of a token, however it is spelled. -/
def idOf (value : Json) : Except VerificationFault TokenId :=
  (TokenId.ofText? value.plainText).elim (.error .badValue) .ok

/-- What a token names that is valid now. -/
def verify (token secret : Text) (now : Int) : Except VerificationFault RefreshClaims := do
  let claims ← Claims.trusted (.secret secret) requiredClaims now token
  let user ← userOf (← Claims.demand claims "uid")
  let id ← idOf (← Claims.demand claims "jti")
  return ⟨user, id⟩

def verify? (token secret : Text) (now : Int) : Option RefreshClaims :=
  (verify token secret now).toOption

end RefreshToken

end TokenAuthority
