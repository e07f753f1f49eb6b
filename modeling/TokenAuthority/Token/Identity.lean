import TokenAuthority.Failure
import TokenAuthority.Token.Claims
import TokenAuthority.User.Snapshot

/-!
Identity tokens.

An identity token carries a user's snapshot.  It is trusted by its signature and its claims alone.
-/

namespace TokenAuthority

structure IdentityToken where
  signed : String
  user : UserSnapshot
  lifespan : Claims.Lifespan
deriving DecidableEq, Repr

namespace IdentityToken

def requiredClaims : List String := ["user", "iat", "exp"]

def payload (user : UserSnapshot) (lifespan : Claims.Lifespan) : Json :=
  .object (("user", user.dump) :: lifespan.claims)

/-- Issue a token; without a key nothing can be signed. -/
def issue (user : UserSnapshot) (key : Option Rsa.PrivateKey) (lifetime now : Int) :
    Except Failure IdentityToken :=
  match Claims.Lifespan.starting? now lifetime with
  | none => .error .dateOutOfRange
  | some lifespan =>
      match key.bind fun key => Compact.sign? (.rsa key) (payload user lifespan) with
      | some signed => .ok ⟨signed, user, lifespan⟩
      | none => .error (.service (.signingFailed .identity))

/-- The user of a token that is valid now. -/
def verify (token : Text) (key : Rsa.PublicKey) (now : Int) :
    Except VerificationFault UserSnapshot := do
  let claims ← Claims.trusted (.rsa key) requiredClaims now token
  (UserSnapshot.load (← Claims.demand claims "user")).mapError .illFormedUser

/-- The user of a token that is valid now; without a key none is. -/
def verify? (token : Text) (key : Option Rsa.PublicKey) (now : Int) : Option UserSnapshot :=
  key.bind fun key => (verify token key now).toOption

end IdentityToken

end TokenAuthority
