import TokenAuthority.Store.Key

/-!
What can go wrong inside the token service.

A `ServiceError` is one of the causes that the service reports, each of a category: a credential
that cannot be trusted, or a fault on this side, of which a passed deadline is a special one.  A
`Failure` is anything that ends a call: a service error, a date beyond the calendar, an unusable key
part, or a key that is not encoded or not decoded.
-/

namespace TokenAuthority

inductive TokenKind where
  | identity
  | refresh
deriving DecidableEq, Repr

def TokenKind.word : TokenKind → String
  | .identity => "identity"
  | .refresh => "refresh"

/-- How service errors are told apart. -/
inductive Category where
  | general
  | authorization
  | internal
  /-- The caller's deadline passed, or the call was cancelled. -/
  | deadlineExceeded
deriving DecidableEq, Repr

namespace Category

def defaultMessage : Category → String
  | .general => "Service error"
  | .authorization => "invalid credentials"
  | .internal => "internal error"
  | .deadlineExceeded => "deadline exceeded"

def faultName : Category → String
  | .general => "ServiceError"
  | .authorization => "AuthorizationError"
  | .internal => "InternalError"
  | .deadlineExceeded => "DeadlineExceededError"

/-- Whether the fault is on this side; a passed deadline is one, too. -/
def isInternal : Category → Bool
  | .internal => true
  | .deadlineExceeded => true
  | _ => false

end Category

/-- A cause that the service reports. -/
inductive ServiceError where
  /-- An error with a text of its own; an absent or empty one is replaced. -/
  | worded (category : Category) (text : Option Text)
  | invalidToken (kind : TokenKind)
  | invalidUserId
  | signingFailed (kind : TokenKind)
  | storeUnavailable
  | revocationIncomplete (failed : Nat) (user : Text)
  | verificationFailed
  | deadlinePassed (step : String)
deriving DecidableEq, Repr

namespace ServiceError

def category : ServiceError → Category
  | .worded category _ => category
  | .invalidToken _ => .authorization
  | .deadlinePassed _ => .deadlineExceeded
  | .invalidUserId => .internal
  | .signingFailed _ => .internal
  | .storeUnavailable => .internal
  | .revocationIncomplete _ _ => .internal
  | .verificationFailed => .internal

def message : ServiceError → Text
  | .worded category text =>
      match text with
      | some text => if text.isEmpty then category.defaultMessage else text
      | none => category.defaultMessage
  | .invalidToken kind => "invalid " ++ kind.word ++ " token"
  | .invalidUserId => "invalid user id"
  | .signingFailed kind => "failed to sign " ++ kind.word ++ " token"
  | .storeUnavailable => "revocation store unavailable"
  | .revocationIncomplete failed user =>
      "failed to revoke " ++ toString failed ++ " refresh token(s) for user " ++ user
  | .verificationFailed => "token verification failed"
  | .deadlinePassed step => "deadline exceeded before " ++ step

end ServiceError

/-- What ends a call. -/
inductive Failure where
  | service (error : ServiceError)
  | dateOutOfRange
  | keyPart (error : StoreKey.PartError)
  /-- A key is to be encoded and holds surrogates. -/
  | unencodable
  /-- The octets of a key are no text. -/
  | undecodable

end TokenAuthority
