import TokenAuthority.Key.Unread
import TokenAuthority.Token.Identity

/-!
Identity tokens with a key that is handed over as text.

The text is read when the key is needed.  A text that holds no key is no more than the lack of one;
a key of an algorithm that is not known, and the wrong half of a key, are told apart from it.
-/

namespace TokenAuthority.IdentityToken

inductive UnreadKeyFailure where
  | failure (failure : Failure)
  | unsupportedKey
  /-- The text holds the half of a key that the other operation needs. -/
  | wrongHalf

/-- Issue a token; its dates are checked before the key is read. -/
def issueUnread (user : UserSnapshot) (key : Octets) (lifetime now : Int) :
    Except UnreadKeyFailure IdentityToken :=
  let issueWith := fun key => (issue user key lifetime now).mapError .failure
  let orLater := fun failure =>
    if (Claims.Lifespan.starting? now lifetime).isNone then
      .error (.failure .dateOutOfRange)
    else .error failure
  match Key.half key with
  | .ok (.signing key) => issueWith (some key)
  | .ok (.verifying _) => orLater .wrongHalf
  | .error .unsupported => orLater .unsupportedKey
  | .error .unusable => issueWith none

/-- The user of a token that is valid now; a token whose header does not fit is refused before the
key is read. -/
def verifyUnread (token : Text) (key : Octets) (now : Int) :
    Except UnreadKeyFailure (Option UserSnapshot) :=
  match Compact.read? .rs256 token, Key.half key with
  | none, _ => .ok none
  | some _, .ok (.verifying key) => .ok (verify? token (some key) now)
  | some _, .ok (.signing _) => .error .wrongHalf
  | some _, .error .unsupported => .error .unsupportedKey
  | some _, .error .unusable => .ok none

end TokenAuthority.IdentityToken
